import Mathlib
import Stylesheet.Json.Printer
import Stylesheet.Json.Reader

namespace Stylesheet

namespace Text

theorem hexValue?_hexDigit : ∀ n < 16, Json.hexValue? (hexDigit n) = some n := by decide

theorem hexText_four (n : Nat) :
    hexText 4 n = [hexDigit (n / 4096 % 16), hexDigit (n / 256 % 16), hexDigit (n / 16 % 16),
      hexDigit (n % 16)] := by
  simp [hexText, Nat.div_div_eq_div_mul]

theorem unitOf?_hexText {n : Nat} (h : n < 0x10000) :
    Json.unitOf? (hexDigit (n / 4096 % 16)) (hexDigit (n / 256 % 16)) (hexDigit (n / 16 % 16))
      (hexDigit (n % 16)) = some n := by
  have hdigit (k : Nat) : Json.hexValue? (hexDigit (k % 16)) = some (k % 16) :=
    hexValue?_hexDigit _ (Nat.mod_lt _ (by decide))
  simp only [Json.unitOf?, hdigit, Option.bind_eq_bind, Option.bind_some, Option.pure_def,
    Option.some.injEq]
  omega

end Text

namespace Json

def IsPrintable (c : Char) : Prop := 0x20 ≤ c.toNat ∧ c.toNat < 0x7F

instance (c : Char) : Decidable (IsPrintable c) := inferInstanceAs (Decidable (_ ∧ _))

variable {c : Char} {cs rest : List Char} {s : String} {j : Json} {items : List Json}
  {members : List (String × Json)} {fuel : Nat}

theorem isPrintable_hexDigit : ∀ n < 16, IsPrintable (Text.hexDigit n) := by decide

theorem isPrintable_hexText {width n : Nat} : ∀ c ∈ Text.hexText width n, IsPrintable c := by
  induction width generalizing n with
  | zero => simp [Text.hexText]
  | succ width ih =>
    intro c hc
    rw [Text.hexText, List.mem_append, List.mem_singleton] at hc
    rcases hc with hc | rfl
    · exact ih c hc
    · exact isPrintable_hexDigit _ (Nat.mod_lt _ (by decide))

theorem isValidChar_toNat (c : Char) : c.toNat.isValidChar := c.valid

theorem units_of_lt (h : c.toNat < 0x10000) : units c = [c.toNat] := by
  simp only [units, if_pos h]

theorem units_of_le (h : 0x10000 ≤ c.toNat) :
    units c = [0xD800 + (c.toNat - 0x10000) / 0x400, 0xDC00 + (c.toNat - 0x10000) % 0x400] := by
  simp only [units, if_neg (Nat.not_lt.2 h)]

theorem units_lt : ∀ u ∈ units c, u < 0x10000 := by
  have hvalid := isValidChar_toNat c
  rcases Nat.lt_or_ge c.toNat 0x10000 with h | h
  · rw [units_of_lt h]
    exact List.forall_mem_singleton.2 h
  · rw [units_of_le h]
    simp only [List.mem_cons, List.not_mem_nil, or_false]
    rintro u (hu | hu) <;> omega

def coded (u : Nat) : List Char := '\\' :: 'u' :: Text.hexText 4 u

theorem escape_cases (c : Char) :
    (∃ letter, escape c = ['\\', letter] ∧ escaped? letter = some c ∧ IsPrintable letter ∧
      c.toNat < 0x10000) ∨
    (escape c = [c] ∧ c ≠ '"' ∧ c ≠ '\\' ∧ IsPrintable c) ∨
    escape c = (units c).flatMap coded := by
  unfold escape
  split_ifs with hquote hslash hline hreturn htab hpage hback hplain
  · exact .inl ⟨'"', rfl, congrArg some hquote.symm, by decide, by simp [hquote]⟩
  · exact .inl ⟨'\\', rfl, congrArg some hslash.symm, by decide, by simp [hslash]⟩
  · exact .inl ⟨'n', rfl, congrArg some hline.symm, by decide, by simp [hline]⟩
  · exact .inl ⟨'r', rfl, congrArg some hreturn.symm, by decide, by simp [hreturn]⟩
  · exact .inl ⟨'t', rfl, congrArg some htab.symm, by decide, by simp [htab]⟩
  · exact .inl ⟨'f', rfl, congrArg some hpage.symm, by decide, by simp [hpage]⟩
  · exact .inl ⟨'b', rfl, congrArg some hback.symm, by decide, by simp [hback]⟩
  · exact .inr (.inl ⟨rfl, hquote, hslash, hplain⟩)
  · exact .inr (.inr rfl)

theorem isPrintable_coded {u : Nat} : ∀ c ∈ coded u, IsPrintable c := by
  simp only [coded, List.forall_mem_cons]
  exact ⟨by decide, by decide, isPrintable_hexText⟩

theorem isPrintable_escape : ∀ d ∈ escape c, IsPrintable d := by
  rcases escape_cases c with ⟨letter, he, -, hletter, -⟩ | ⟨he, -, -, hc⟩ | he <;> rw [he]
  · simp only [List.forall_mem_cons]
    exact ⟨by decide, hletter, by simp⟩
  · exact List.forall_mem_singleton.2 hc
  · intro d hd
    obtain ⟨u, -, hd⟩ := List.mem_flatMap.1 hd
    exact isPrintable_coded d hd

theorem isPrintable_textLiteral : ∀ c ∈ textLiteral s, IsPrintable c := by
  intro c hc
  simp only [textLiteral, List.cons_append, List.mem_cons, List.mem_append, List.mem_flatMap,
    List.not_mem_nil, or_false] at hc
  rcases hc with rfl | ⟨d, -, hc⟩ | rfl
  · decide
  · exact isPrintable_escape c hc
  · decide

theorem readCodes_coded {u : Nat} (h : u < 0x10000) (rest : List Char) :
    readCodes (coded u ++ rest) = (readCodes rest).map fun p ↦ (u :: p.1, p.2) := by
  rw [coded, Text.hexText_four]
  simp only [List.cons_append, List.nil_append, readCodes, Text.unitOf?_hexText h]
  cases readCodes rest <;> rfl

theorem readCodes_units {us : List Nat} (h : ∀ u ∈ us, u < 0x10000) (rest : List Char) :
    readCodes (us.flatMap coded ++ rest) = (readCodes rest).map fun p ↦ (us ++ p.1, p.2) := by
  induction us with
  | nil => simp
  | cons u more ih =>
    obtain ⟨hu, hmore⟩ := List.forall_mem_cons.1 h
    rw [List.flatMap_cons, List.append_assoc, readCodes_coded hu, ih hmore, Option.map_map]
    rfl

theorem readCodes_plain (hquote : c ≠ '"') (hslash : c ≠ '\\') (rest : List Char) :
    readCodes (c :: rest) = (readCodes rest).map fun p ↦ (c.toNat :: p.1, p.2) := by
  rw [readCodes]
  · cases readCodes rest <;> rfl
  · exact hquote
  · intros
    exact hslash ‹_›
  · intros
    exact hslash ‹_›

theorem readCodes_letter {letter : Char} (h : escaped? letter = some c) (rest : List Char) :
    readCodes ('\\' :: letter :: rest) = (readCodes rest).map fun p ↦ (c.toNat :: p.1, p.2) := by
  rw [readCodes, h]
  · cases readCodes rest <;> rfl
  · rintro a b d e more rfl
    cases h

/-- A character is read as its units, however it is escaped. -/
theorem readCodes_escape (c : Char) (rest : List Char) :
    readCodes (escape c ++ rest) = (readCodes rest).map fun p ↦ (units c ++ p.1, p.2) := by
  rcases escape_cases c with ⟨letter, he, hletter, -, hc⟩ | ⟨he, hquote, hslash, -, hc⟩ | he <;>
    rw [he]
  · rw [units_of_lt hc]
    exact readCodes_letter hletter rest
  · rw [units_of_lt (Nat.lt_trans hc (by decide))]
    exact readCodes_plain hquote hslash rest
  · exact readCodes_units units_lt rest

theorem readCodes_text (cs rest : List Char) :
    readCodes (cs.flatMap escape ++ '"' :: rest) = some (cs.flatMap units, rest) := by
  induction cs with
  | nil => rw [List.flatMap_nil, List.nil_append, readCodes, List.flatMap_nil]
  | cons c more ih =>
    rw [List.flatMap_cons, List.append_assoc, readCodes_escape, ih]
    rfl

theorem joinUnits_cons {n : Nat} (hhigh : isHigh n = false) (hlow : isLow n = false)
    (ns : List Nat) : joinUnits (n :: ns) = (joinUnits ns).map (Char.ofNat n :: ·) := by
  cases ns with
  | nil => simp [joinUnits, hhigh, hlow]
  | cons m more => simp [joinUnits, hhigh, hlow]

/-- The units of a character are joined to the character: a pair is split where it has to be. -/
theorem joinUnits_units (c : Char) (ns : List Nat) :
    joinUnits (units c ++ ns) = (joinUnits ns).map (c :: ·) := by
  have hvalid := isValidChar_toNat c
  rcases Nat.lt_or_ge c.toNat 0x10000 with h | h
  · have hhigh : isHigh c.toNat = false := by
      simp only [isHigh, Bool.and_eq_false_iff, decide_eq_false_iff_not]
      omega
    have hlow : isLow c.toNat = false := by
      simp only [isLow, Bool.and_eq_false_iff, decide_eq_false_iff_not]
      omega
    rw [units_of_lt h, List.singleton_append, joinUnits_cons hhigh hlow, Char.ofNat_toNat]
  · have hhigh : isHigh (0xD800 + (c.toNat - 0x10000) / 0x400) = true := by
      simp only [isHigh, Bool.and_eq_true, decide_eq_true_eq]
      omega
    have hlow : isLow (0xDC00 + (c.toNat - 0x10000) % 0x400) = true := by
      simp only [isLow, Bool.and_eq_true, decide_eq_true_eq]
      omega
    have hcode : 0x10000 + (0xD800 + (c.toNat - 0x10000) / 0x400 - 0xD800) * 0x400 +
        (0xDC00 + (c.toNat - 0x10000) % 0x400 - 0xDC00) = c.toNat := by omega
    rw [units_of_le h, List.cons_append, List.singleton_append, joinUnits, if_pos hhigh, if_pos hlow,
      hcode, Char.ofNat_toNat]

theorem joinUnits_text (cs : List Char) : joinUnits (cs.flatMap units) = some cs := by
  induction cs with
  | nil => rfl
  | cons c more ih =>
    rw [List.flatMap_cons, joinUnits_units, ih]
    rfl

theorem readText_literal (s : String) (rest : List Char) :
    readText (s.toList.flatMap escape ++ '"' :: rest) = some (s, rest) := by
  rw [readText, readCodes_text]
  simp [joinUnits_text]

def EndsNumeral (rest : List Char) : Prop := ∀ c ∈ rest.head?, isNumeral c = false

theorem toList_intText (n : Int) :
    (Number.intText n).toList = (if n < 0 then ['-'] else []) ++ Nat.toDigits 10 n.natAbs := by
  rw [Number.intText]
  split <;> simp [Number.digitsText]

theorem isDigit_toDigits {n : Nat} : ∀ c ∈ Nat.toDigits 10 n, c.isDigit = true :=
  fun _ ↦ Nat.isDigit_of_mem_toDigits (by decide) (by decide)

theorem digitsValue_toDigits (n : Nat) : digitsValue (Nat.toDigits 10 n) = n := by
  have h : Nat.ofDigitChars 10 (Nat.toDigits 10 n) 0 = n := Nat.ofDigitChars_ten_toDigits
  simp only [Nat.ofDigitChars_eq_foldl, Nat.mul_comm 10] at h
  exact h

theorem isPrintable_of_isDigit (h : c.isDigit = true) : IsPrintable c := by
  have hc : 48 ≤ c.toNat ∧ c.toNat ≤ 57 := by
    simpa [Char.isDigit, UInt32.le_iff_toNat_le] using h
  unfold IsPrintable
  omega

theorem isPrintable_intText {n : Int} : ∀ c ∈ (Number.intText n).toList, IsPrintable c := by
  rw [toList_intText]
  intro c hc
  rcases List.mem_append.1 hc with hc | hc
  · split at hc
    · obtain rfl : c = '-' := by simpa using hc
      decide
    · cases hc
  · exact isPrintable_of_isDigit (isDigit_toDigits c hc)

theorem exists_cons_toDigits (n : Nat) : ∃ c cs, Nat.toDigits 10 n = c :: cs ∧ c.isDigit = true := by
  obtain ⟨c, cs, h⟩ := List.exists_cons_of_ne_nil (Nat.toDigits_ne_nil (b := 10) (n := n))
  exact ⟨c, cs, h, isDigit_toDigits c (h ▸ List.mem_cons_self ..)⟩

theorem ofNumeral?_intText (n : Int) : ofNumeral? (Number.intText n).toList = some (.int n) := by
  have hall : (Nat.toDigits 10 n.natAbs).all Char.isDigit = true := List.all_eq_true.2 isDigit_toDigits
  obtain ⟨c, cs, hcons, hc⟩ := exists_cons_toDigits n.natAbs
  have hvalue := digitsValue_toDigits n.natAbs
  rw [toList_intText]
  rw [hcons] at hall hvalue ⊢
  split
  · next hn =>
    rw [List.singleton_append, ofNumeral?, hvalue]
    simp only [List.isEmpty_cons, hall, Bool.false_eq_true, if_false, if_true, Option.some.injEq,
      Json.int.injEq]
    omega
  · next hn =>
    rw [List.nil_append, ofNumeral?, hvalue]
    · simp only [List.isEmpty_cons, hall, Bool.false_eq_true, if_false, if_true, Option.some.injEq,
        Json.int.injEq]
      omega
    · rintro digits ⟨⟩
      exact absurd hc (by decide)

/-- The first character of an integer, which no word, text or collection begins with. -/
theorem exists_cons_intText (n : Int) :
    ∃ c cs, (Number.intText n).toList = c :: cs ∧
      (c.isDigit = true ∨ c = '-' ∧ ∃ d ds, cs = d :: ds ∧ d.isDigit = true) := by
  obtain ⟨d, ds, hcons, hd⟩ := exists_cons_toDigits n.natAbs
  rw [toList_intText, hcons]
  split
  · exact ⟨'-', d :: ds, rfl, .inr ⟨rfl, d, ds, rfl, hd⟩⟩
  · exact ⟨d, ds, rfl, .inl hd⟩

theorem isNumeral_intText {n : Int} : ∀ c ∈ (Number.intText n).toList, isNumeral c = true := by
  rw [toList_intText]
  intro c hc
  rcases List.mem_append.1 hc with hc | hc
  · split at hc
    · obtain rfl : c = '-' := by simpa using hc
      decide
    · cases hc
  · simp [isNumeral, isDigit_toDigits c hc]

theorem readWord_intText (n : Int) (hrest : EndsNumeral rest) :
    readWord ((Number.intText n).toList ++ rest) = some (.int n, rest) := by
  have hbehind : rest.takeWhile isNumeral = [] ∧ rest.dropWhile isNumeral = rest := by
    cases rest with
    | nil => exact ⟨rfl, rfl⟩
    | cons c more =>
      have hc : isNumeral c = false := hrest c rfl
      simp [hc]
  have htake : ((Number.intText n).toList ++ rest).takeWhile isNumeral =
      (Number.intText n).toList ++ rest.takeWhile isNumeral :=
    List.takeWhile_append_of_pos isNumeral_intText
  have hdrop : ((Number.intText n).toList ++ rest).dropWhile isNumeral = rest.dropWhile isNumeral :=
    List.dropWhile_append_of_pos isNumeral_intText
  rw [hbehind.1, List.append_nil] at htake
  rw [hbehind.2] at hdrop
  obtain ⟨c, cs, hcons, hc⟩ := exists_cons_intText n
  have hword : readWord ((Number.intText n).toList ++ rest) =
      (ofNumeral? (((Number.intText n).toList ++ rest).takeWhile isNumeral)).map fun j ↦
        (j, ((Number.intText n).toList ++ rest).dropWhile isNumeral) := by
    rw [hcons, List.cons_append]
    rcases hc with hc | ⟨rfl, d, ds, rfl, hd⟩
    · rw [readWord]
      all_goals
        intro more he
        obtain ⟨rfl, -⟩ := List.cons.inj he
        exact absurd hc (by decide)
    · rw [List.cons_append, readWord]
      all_goals
        intro more he
        simp only [List.cons.injEq, Char.reduceEq, false_and] at he
      obtain ⟨-, rfl, -⟩ := he
      exact absurd hd (by decide)
  rw [hword, htake, hdrop, ofNumeral?_intText]
  rfl

/-- JSON without decimals and without integers that are too long to be written. -/
inductive IsWhole : Json → Prop
  | null : IsWhole .null
  | bool (b : Bool) : IsWhole (.bool b)
  | int {n : Int} (h : Number.isWritable n = true) : IsWhole (.int n)
  | text (s : String) : IsWhole (.text s)
  | array {items : List Json} (h : ∀ j ∈ items, IsWhole j) : IsWhole (.array items)
  | object {members : List (String × Json)} (h : ∀ m ∈ members, IsWhole m.2) :
    IsWhole (.object members)

theorem line_int {n : Int} (h : Number.isWritable n = true) :
    line (.int n) = (Number.intText n).toList := by
  simp [line, atomText?, h]

theorem itemsLine_cons (j : Json) (more : List Json) :
    itemsLine (j :: more) = line j ++ if more = [] then [] else ',' :: ' ' :: itemsLine more := by
  cases more <;> simp [itemsLine]

theorem membersLine_cons (name : String) (j : Json) (more : List (String × Json)) :
    membersLine ((name, j) :: more) = textLiteral name ++ ':' :: ' ' :: (line j ++
      if more = [] then [] else ',' :: ' ' :: membersLine more) := by
  cases more <;> simp [membersLine]

theorem isPrintable_itemsLine (h : ∀ j ∈ items, ∀ c ∈ line j, IsPrintable c) :
    ∀ c ∈ itemsLine items, IsPrintable c := by
  induction items with
  | nil => simp [itemsLine]
  | cons j more ih =>
    obtain ⟨hj, hmore⟩ := List.forall_mem_cons.1 h
    rw [itemsLine_cons]
    intro c hc
    rcases List.mem_append.1 hc with hc | hc
    · exact hj c hc
    · split at hc
      · cases hc
      · simp only [List.mem_cons] at hc
        rcases hc with rfl | rfl | hc
        · decide
        · decide
        · exact ih hmore c hc

theorem isPrintable_membersLine (h : ∀ m ∈ members, ∀ c ∈ line m.2, IsPrintable c) :
    ∀ c ∈ membersLine members, IsPrintable c := by
  induction members with
  | nil => simp [membersLine]
  | cons m more ih =>
    obtain ⟨name, j⟩ := m
    obtain ⟨hj, hmore⟩ := List.forall_mem_cons.1 h
    rw [membersLine_cons]
    intro c hc
    rcases List.mem_append.1 hc with hc | hc
    · exact isPrintable_textLiteral c hc
    · simp only [List.mem_cons, List.mem_append] at hc
      rcases hc with rfl | rfl | hc | hc
      · decide
      · decide
      · exact hj c hc
      · split at hc
        · cases hc
        · simp only [List.mem_cons] at hc
          rcases hc with rfl | rfl | hc
          · decide
          · decide
          · exact ih hmore c hc

theorem IsWhole.isPrintable (h : IsWhole j) : ∀ c ∈ line j, IsPrintable c := by
  have hbrackets (first last : Char) (hfirst : IsPrintable first) (hlast : IsPrintable last)
      {cs : List Char} (hcs : ∀ c ∈ cs, IsPrintable c) :
      ∀ c ∈ first :: cs ++ [last], IsPrintable c := by
    intro c hc
    simp only [List.cons_append, List.mem_cons, List.mem_append, List.not_mem_nil, or_false] at hc
    rcases hc with rfl | hc | rfl
    · exact hfirst
    · exact hcs c hc
    · exact hlast
  induction h with
  | null => simp [line, atomText?, IsPrintable]
  | bool b => cases b <;> simp [line, atomText?, IsPrintable]
  | int h =>
    rw [line_int h]
    exact isPrintable_intText
  | text s => simpa [line, atomText?] using isPrintable_textLiteral
  | array _ ih =>
    rw [line]
    exact hbrackets _ _ (by decide) (by decide) (isPrintable_itemsLine ih)
  | object _ ih =>
    rw [line]
    exact hbrackets _ _ (by decide) (by decide) (isPrintable_membersLine ih)

theorem marks_of_isNumeral (h : isNumeral c = true) :
    isSpace c = false ∧ c ≠ ']' ∧ c ≠ '"' ∧ c ≠ '[' ∧ c ≠ '\x7b' := by
  have hne (d : Char) (hd : isNumeral d = false) : c ≠ d := by
    rintro rfl
    simp [hd] at h
  refine ⟨?_, hne _ (by decide), hne _ (by decide), hne _ (by decide), hne _ (by decide)⟩
  simp [isSpace, hne ' ' (by decide), hne '\n' (by decide), hne '\r' (by decide),
    hne '\t' (by decide)]

theorem IsWhole.exists_cons (h : IsWhole j) :
    ∃ c cs, line j = c :: cs ∧ isSpace c = false ∧ c ≠ ']' := by
  cases h with
  | null => exact ⟨'n', _, by simp [line, atomText?]; rfl, by decide, by decide⟩
  | bool b =>
    cases b
    · exact ⟨'f', _, by simp [line, atomText?]; rfl, by decide, by decide⟩
    · exact ⟨'t', _, by simp [line, atomText?]; rfl, by decide, by decide⟩
  | @int n h =>
    obtain ⟨c, cs, hcons, -⟩ := exists_cons_intText n
    have hc : isNumeral c = true := isNumeral_intText c (hcons ▸ List.mem_cons_self ..)
    obtain ⟨hspace, hclose, -⟩ := marks_of_isNumeral hc
    exact ⟨c, cs, (line_int h).trans hcons, hspace, hclose⟩
  | text s => exact ⟨'"', _, by simp [line, atomText?, textLiteral]; rfl, by decide, by decide⟩
  | array _ => exact ⟨'[', _, by simp [line]; rfl, by decide, by decide⟩
  | object _ => exact ⟨'\x7b', _, by simp [line]; rfl, by decide, by decide⟩

theorem skip_cons (h : isSpace c = false) (rest : List Char) : skip (c :: rest) = c :: rest := by
  simp [skip, h]

theorem skip_blank (rest : List Char) : skip (' ' :: rest) = skip rest := by
  simp [skip, isSpace]

/-- The line of a value is read from the front of a text, whatever stands behind it, unless that could
be part of a numeral. Each item and each level is at least as long as what they spend. -/
def ReadsBack (j : Json) : Prop :=
  ∀ (fuel : Nat) (rest : List Char), (line j).length ≤ fuel → EndsNumeral rest →
    read fuel (line j ++ rest) = some (j, rest)

theorem endsNumeral_cons (h : isNumeral c = false) (rest : List Char) : EndsNumeral (c :: rest) := by
  rintro d hd
  cases hd
  exact h

theorem readsBack_int {n : Int} (h : Number.isWritable n = true) : ReadsBack (.int n) := by
  intro fuel rest hfuel hrest
  obtain ⟨c, cs, hcons, -⟩ := exists_cons_intText n
  have hc : isNumeral c = true := isNumeral_intText c (hcons ▸ List.mem_cons_self ..)
  obtain ⟨-, -, hquote, hopen, hbrace⟩ := marks_of_isNumeral hc
  have hline := line_int h
  have hword := readWord_intText n hrest
  rw [hline] at hfuel ⊢
  rw [hcons] at hfuel hword ⊢
  cases fuel with
  | zero => simp at hfuel
  | succ fuel =>
    rw [List.cons_append] at hword ⊢
    rw [read, hword]
    · intro more he
      exact hquote (List.cons.inj he).1
    · intro more he
      exact hopen (List.cons.inj he).1
    · intro more he
      exact hbrace (List.cons.inj he).1

theorem readsBack_text (s : String) : ReadsBack (.text s) := by
  intro fuel rest hfuel hrest
  have hline : line (.text s) = '"' :: s.toList.flatMap escape ++ ['"'] := by
    simp [line, atomText?, textLiteral]
  rw [hline] at hfuel ⊢
  cases fuel with
  | zero => simp at hfuel
  | succ fuel =>
    rw [List.append_assoc, List.cons_append, List.singleton_append, read, readText_literal]
    rfl

theorem skip_itemsLine (h : ∀ j ∈ items, IsWhole j) (hne : items ≠ []) (rest : List Char) :
    skip (itemsLine items ++ rest) = itemsLine items ++ rest ∧
      ∀ more, itemsLine items ++ rest ≠ ']' :: more := by
  obtain ⟨j, more, rfl⟩ := List.exists_cons_of_ne_nil hne
  obtain ⟨c, cs, hcons, hspace, hclose⟩ := (h j (List.mem_cons_self ..)).exists_cons
  rw [itemsLine_cons, hcons]
  exact ⟨skip_cons hspace _, fun more he ↦ hclose (List.cons.inj he).1⟩

theorem readItems_itemsLine (hwhole : ∀ j ∈ items, IsWhole j) (h : ∀ j ∈ items, ReadsBack j)
    (hne : items ≠ []) (hfuel : (itemsLine items).length < fuel) (rest : List Char) :
    readItems fuel (itemsLine items ++ ']' :: rest) = some (items, rest) := by
  induction items generalizing fuel with
  | nil => exact absurd rfl hne
  | cons j more ih =>
    obtain ⟨hj, hmore⟩ := List.forall_mem_cons.1 h
    obtain ⟨-, hwhole⟩ := List.forall_mem_cons.1 hwhole
    obtain ⟨fuel, rfl⟩ := Nat.exists_eq_add_one_of_ne_zero (Nat.ne_zero_of_lt hfuel)
    rw [itemsLine_cons, List.length_append] at hfuel
    rw [itemsLine_cons, List.append_assoc, readItems]
    by_cases hlast : more = []
    · rw [if_pos hlast] at hfuel ⊢
      rw [List.nil_append, hj fuel _ (by omega) (endsNumeral_cons (by decide) _)]
      simp [skip_cons (show isSpace ']' = false by decide), hlast]
    · rw [if_neg hlast, List.length_cons, List.length_cons] at hfuel
      rw [if_neg hlast, List.cons_append, List.cons_append,
        hj fuel _ (by omega) (endsNumeral_cons (by decide) _)]
      have hbound : (itemsLine more).length < fuel := by omega
      have hnext := ih hwhole hmore hlast hbound
      rw [← (skip_itemsLine hwhole hlast _).1, ← skip_blank] at hnext
      simp [skip_cons (show isSpace ',' = false by decide), hnext]

theorem textLiteral_append (s : String) (rest : List Char) :
    textLiteral s ++ rest = '"' :: (s.toList.flatMap escape ++ '"' :: rest) := by
  simp [textLiteral]

theorem skip_membersLine (hne : members ≠ []) (rest : List Char) :
    skip (membersLine members ++ rest) = membersLine members ++ rest ∧
      ∀ more, membersLine members ++ rest ≠ '\x7d' :: more := by
  obtain ⟨⟨name, j⟩, more, rfl⟩ := List.exists_cons_of_ne_nil hne
  rw [membersLine_cons, List.append_assoc, textLiteral_append]
  exact ⟨skip_cons (by decide) _, fun more he ↦ absurd (List.cons.inj he).1 (by decide)⟩

theorem readMembers_membersLine (hwhole : ∀ m ∈ members, IsWhole m.2)
    (h : ∀ m ∈ members, ReadsBack m.2) (hne : members ≠ [])
    (hfuel : (membersLine members).length < fuel) (rest : List Char) :
    readMembers fuel (membersLine members ++ '\x7d' :: rest) = some (members, rest) := by
  induction members generalizing fuel with
  | nil => exact absurd rfl hne
  | cons m more ih =>
    obtain ⟨name, j⟩ := m
    have hj : ReadsBack j := h (name, j) (List.mem_cons_self ..)
    have hmore := (List.forall_mem_cons.1 h).2
    obtain ⟨hwholej, hwhole⟩ := List.forall_mem_cons.1 hwhole
    have hcolon : isSpace ':' = false := by decide
    have hvalue (rest : List Char) : skip (line j ++ rest) = line j ++ rest := by
      obtain ⟨c, cs, hcons, hspace, -⟩ := hwholej.exists_cons
      rw [hcons]
      exact skip_cons hspace _
    obtain ⟨fuel, rfl⟩ := Nat.exists_eq_add_one_of_ne_zero (Nat.ne_zero_of_lt hfuel)
    rw [membersLine_cons, List.length_append, List.length_cons, List.length_cons,
      List.length_append] at hfuel
    rw [membersLine_cons, List.append_assoc, textLiteral_append, List.cons_append, List.cons_append,
      List.append_assoc, readMembers]
    simp only [readText_literal, Option.bind_eq_bind, Option.bind_some, skip_cons hcolon, skip_blank,
      hvalue]
    by_cases hlast : more = []
    · rw [if_pos hlast] at hfuel ⊢
      rw [List.nil_append, hj fuel _ (by omega) (endsNumeral_cons (by decide) _)]
      simp [skip_cons (show isSpace '\x7d' = false by decide), hlast]
    · rw [if_neg hlast, List.length_cons, List.length_cons] at hfuel
      rw [if_neg hlast, List.cons_append, List.cons_append,
        hj fuel _ (by omega) (endsNumeral_cons (by decide) _)]
      have hbound : (membersLine more).length < fuel := by omega
      have hnext := ih hwhole hmore hlast hbound
      rw [← (skip_membersLine hlast _).1, ← skip_blank] at hnext
      simp [skip_cons (show isSpace ',' = false by decide), hnext]

theorem readsBack_word {word : List Char} (hline : line j = word) (hne : word ≠ [])
    (h : ∀ fuel rest, read (fuel + 1) (word ++ rest) = some (j, rest)) : ReadsBack j := by
  intro fuel rest hfuel hrest
  rw [hline] at hfuel ⊢
  have hpos : 0 < word.length := List.length_pos_iff.2 hne
  obtain ⟨fuel, rfl⟩ := Nat.exists_eq_add_one_of_ne_zero (n := fuel) (by omega)
  exact h fuel rest

theorem readsBack_array (hwhole : ∀ j ∈ items, IsWhole j) (h : ∀ j ∈ items, ReadsBack j) :
    ReadsBack (.array items) := by
  intro fuel rest hfuel hrest
  rw [line, List.cons_append, List.length_cons, List.length_append, List.length_singleton] at hfuel
  obtain ⟨fuel, rfl⟩ := Nat.exists_eq_add_one_of_ne_zero (n := fuel) (by omega)
  rw [line, List.append_assoc, List.cons_append, List.singleton_append, read]
  by_cases hne : items = []
  · subst hne
    rw [itemsLine, List.nil_append, skip_cons (by decide)]
    rfl
  · obtain ⟨hskip, hopen⟩ := skip_itemsLine hwhole hne (']' :: rest)
    rw [hskip]
    split
    · next he => exact absurd he (hopen _)
    · rw [readItems_itemsLine hwhole h hne (by omega)]
      rfl

theorem readsBack_object (hwhole : ∀ m ∈ members, IsWhole m.2) (h : ∀ m ∈ members, ReadsBack m.2) :
    ReadsBack (.object members) := by
  intro fuel rest hfuel hrest
  rw [line, List.cons_append, List.length_cons, List.length_append, List.length_singleton] at hfuel
  obtain ⟨fuel, rfl⟩ := Nat.exists_eq_add_one_of_ne_zero (n := fuel) (by omega)
  rw [line, List.append_assoc, List.cons_append, List.singleton_append, read]
  by_cases hne : members = []
  · subst hne
    rw [membersLine, List.nil_append, skip_cons (by decide)]
    rfl
  · obtain ⟨hskip, hopen⟩ := skip_membersLine hne ('\x7d' :: rest)
    rw [hskip]
    split
    · next he => exact absurd he (hopen _)
    · rw [readMembers_membersLine hwhole h hne (by omega)]
      rfl

theorem IsWhole.readsBack (h : IsWhole j) : ReadsBack j := by
  induction h with
  | null => exact readsBack_word (by simp [line, atomText?]; rfl) (by simp) fun _ _ ↦ rfl
  | bool b =>
    cases b
    · exact readsBack_word (by simp [line, atomText?]; rfl) (by simp) fun _ _ ↦ rfl
    · exact readsBack_word (by simp [line, atomText?]; rfl) (by simp) fun _ _ ↦ rfl
  | int h => exact readsBack_int h
  | text s => exact readsBack_text s
  | array h ih => exact readsBack_array h ih
  | object h ih => exact readsBack_object h ih

theorem IsWhole.parse?_toLine (h : IsWhole j) : parse? j.toLine = some j := by
  obtain ⟨c, cs, hcons, hspace, -⟩ := h.exists_cons
  have hskip : skip (line j) = line j := by
    rw [hcons]
    exact skip_cons hspace cs
  have hread := h.readsBack ((line j).length + 1) [] (Nat.le_succ _) (by simp [EndsNumeral])
  rw [List.append_nil] at hread
  simp only [parse?, toLine, String.toList_ofList, hskip, hread]
  rfl

end Json

end Stylesheet
