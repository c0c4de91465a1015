import Mathlib
import Stylesheet.Yaml.Constant

namespace Stylesheet

open Yaml (isDigitOrLine)

theorem Text.trimBlank_eq_self {cs : List Char} (h : ∀ c ∈ cs, isBlank c = false) : trimBlank cs = cs := by
  have hfront : cs.dropWhile isBlank = cs := by
    cases cs with
    | nil => rfl
    | cons c rest => rw [List.dropWhile_cons_of_neg (by simp [h c])]
  have hback : cs.reverse.dropWhile isBlank = cs.reverse := by
    rcases hcs : cs.reverse with _ | ⟨c, rest⟩
    · rfl
    · have hc : isBlank c = false := h c (List.mem_reverse.1 (by simp [hcs]))
      rw [List.dropWhile_cons_of_neg (by simp [hc])]
  rw [trimBlank, hfront, hback, List.reverse_reverse]

namespace Number

variable {c : Char} {cs rest : List Char} {ds : List Nat} {x : String} {n : Int}
  {negative : Bool}

/-- Digits, with no more than one underscore between one and the next. -/
inductive IsRun : List Char → Prop
  | one {c : Char} (hc : c.isDigit = true) : IsRun [c]
  | beside {c : Char} {cs : List Char} (hc : c.isDigit = true) (h : IsRun cs) : IsRun (c :: cs)
  | apart {c : Char} {cs : List Char} (hc : c.isDigit = true) (h : IsRun cs) : IsRun (c :: '_' :: cs)

/-- A zero, or digits and underscores behind another digit. -/
inductive IsBaseTen : List Char → Prop
  | zero : IsBaseTen ['0']
  | other {c : Char} {rest : List Char} (hc : c.isDigit = true) (hne : c ≠ '0')
      (h : ∀ d ∈ rest, isDigitOrLine d = true) : IsBaseTen (c :: rest)

theorem digit_or_line (hc : isDigitOrLine c = true) : c.isDigit = true ∨ c = '_' := by
  simpa [isDigitOrLine] using hc

theorem toNat_of_isDigit (hc : c.isDigit = true) : 48 ≤ c.toNat ∧ c.toNat ≤ 57 := by
  simpa [Char.isDigit, UInt32.le_iff_toNat_le] using hc

theorem digitValue?_of_isDigit (hc : c.isDigit = true) :
    Text.digitValue? c = some (c.toNat - 48) := by
  obtain ⟨hlo, hhi⟩ := toNat_of_isDigit hc
  have hfirst : Text.zeroDigits.find? (fun z ↦ z ≤ c.toNat && c.toNat < z + 10) = some 48 := by
    rw [Text.zeroDigits, List.find?_cons_of_pos (by simp; omega)]
  rw [Text.digitValue?, hfirst]
  rfl

theorem digitValue?_line : Text.digitValue? '_' = none := by decide

theorem IsRun.exists_cons (h : IsRun cs) : ∃ c rest, cs = c :: rest ∧ c.isDigit = true := by
  cases h with
  | one hc => exact ⟨_, _, rfl, hc⟩
  | beside hc h => exact ⟨_, _, rfl, hc⟩
  | apart hc h => exact ⟨_, _, rfl, hc⟩

theorem digitRun?_beside {d : Char} (hd : d ≠ '_') :
    digitRun? (c :: d :: rest) =
      (Text.digitValue? c).bind fun v ↦ (digitRun? (d :: rest)).bind fun vs ↦ some (v :: vs) := by
  rw [digitRun?]
  · rfl
  · exact nofun
  · intro rest' h
    exact hd (List.cons.inj h).1

theorem digitRun?_apart :
    digitRun? (c :: '_' :: rest) =
      (Text.digitValue? c).bind fun v ↦ (digitRun? rest).bind fun vs ↦ some (v :: vs) := by
  rw [digitRun?]
  rfl

theorem ne_line_of_isDigit (hc : c.isDigit = true) : c ≠ '_' := by
  rintro rfl
  cases hc

theorem IsRun.digitRun?_eq (h : IsRun cs) : digitRun? cs = some (cs.filterMap Text.digitValue?) := by
  induction h with
  | one hc => simp [digitRun?, digitValue?_of_isDigit hc]
  | @beside c cs hc h ih =>
    obtain ⟨d, rest, rfl, hd⟩ := h.exists_cons
    rw [digitRun?_beside (ne_line_of_isDigit hd), ih, digitValue?_of_isDigit hc,
      List.filterMap_cons_some (digitValue?_of_isDigit hc)]
    rfl
  | apart hc h ih =>
    rw [digitRun?_apart, ih, digitValue?_of_isDigit hc, List.filterMap_cons_some (digitValue?_of_isDigit hc),
      List.filterMap_cons_none digitValue?_line]
    rfl

theorem isRun_of_digitRun? (hall : ∀ c ∈ cs, isDigitOrLine c = true) (h : digitRun? cs = some ds) :
    IsRun cs := by
  have hdigit {c : Char} {v : Nat} (hc : isDigitOrLine c = true) (hv : Text.digitValue? c = some v) :
      c.isDigit = true := by
    rcases digit_or_line hc with hc | rfl
    · exact hc
    · rw [digitValue?_line] at hv
      cases hv
  fun_induction digitRun? cs generalizing ds with
  | case1 => cases h
  | case2 c =>
    obtain ⟨v, hv, -⟩ := Option.map_eq_some_iff.1 h
    exact .one (hdigit (hall c (by simp)) hv)
  | case3 c rest ih =>
    obtain ⟨v, hv, h⟩ := Option.bind_eq_some_iff.1 h
    obtain ⟨ds', hds, -⟩ := Option.bind_eq_some_iff.1 h
    exact .apart (hdigit (hall c (by simp)) hv) (ih (fun d hd ↦ hall d (by simp [hd])) hds)
  | case4 c rest _ _ ih =>
    obtain ⟨v, hv, h⟩ := Option.bind_eq_some_iff.1 h
    obtain ⟨ds', hds, -⟩ := Option.bind_eq_some_iff.1 h
    exact .beside (hdigit (hall c (by simp)) hv) (ih (fun d hd ↦ hall d (by simp [hd])) hds)

theorem isNumeralChar_of_isDigitOrLine (hc : isDigitOrLine c = true) : isNumeralChar c = true := by
  rcases digit_or_line hc with hc | rfl
  · simp [isNumeralChar, digitValue?_of_isDigit hc]
  · simp [isNumeralChar]

theorem isBlank_of_isDigitOrLine (hc : isDigitOrLine c = true) : Text.isBlank c = false := by
  rcases digit_or_line hc with hc | rfl
  · obtain ⟨hlo, hhi⟩ := toNat_of_isDigit hc
    simp only [Text.isBlank, Bool.or_eq_false_iff, Bool.and_eq_false_iff, beq_eq_false_iff_ne,
      decide_eq_false_iff_not]
    omega
  · decide

theorem splitSign_of_forall (h : ∀ c ∈ cs, isDigitOrLine c = true) : splitSign cs = (false, cs) := by
  unfold splitSign
  split
  · exact absurd (h '-' (by simp)) (by decide)
  · exact absurd (h '+' (by simp)) (by decide)
  · rfl

theorem splitSign_cases (cs : List Char) :
    (∃ rest, cs = '-' :: rest ∧ splitSign cs = (true, rest)) ∨
    (∃ rest, cs = '+' :: rest ∧ splitSign cs = (false, rest)) ∨ splitSign cs = (false, cs) := by
  unfold splitSign
  split
  · exact .inl ⟨_, rfl, rfl⟩
  · exact .inr (.inl ⟨_, rfl, rfl⟩)
  · exact .inr (.inr rfl)

theorem not_isBlank_of_splitSign (h : ∀ c ∈ (splitSign cs).2, isDigitOrLine c = true) :
    ∀ c ∈ cs, Text.isBlank c = false := by
  intro c hc
  rcases splitSign_cases cs with ⟨rest, rfl, hs⟩ | ⟨rest, rfl, hs⟩ | hs <;> rw [hs] at h
  · rcases List.mem_cons.1 hc with rfl | hc
    · decide
    · exact isBlank_of_isDigitOrLine (h c hc)
  · rcases List.mem_cons.1 hc with rfl | hc
    · decide
    · exact isBlank_of_isDigitOrLine (h c hc)
  · exact isBlank_of_isDigitOrLine (h c hc)

theorem integer_eq (hx : splitSign x.toList = (negative, cs)) (h : ∀ c ∈ cs, isDigitOrLine c = true) :
    integer x = (digitRun? cs).elim (.error .malformed) fun ds ↦
      if longestNumeral < ds.length then .error (.tooLong ds.length)
      else .ok (if negative then -(ofDigits ds : Int) else ofDigits ds) := by
  have hall : ∀ c ∈ cs, isNumeralChar c = true := fun c hc ↦ isNumeralChar_of_isDigitOrLine (h c hc)
  have hrest : cs.dropWhile isNumeralChar = [] := List.dropWhile_eq_nil_iff.2 hall
  have hblank : ∀ c ∈ x.toList, Text.isBlank c = false := not_isBlank_of_splitSign (by rwa [hx])
  rw [integer, Text.trimBlank_eq_self hblank, hx]
  dsimp only
  rw [List.takeWhile_eq_self_iff.2 hall, hrest]
  cases digitRun? cs <;> rfl

theorem splitSign_filter (h : ∀ c ∈ (splitSign cs).2, isDigitOrLine c = true) :
    splitSign (cs.filter (· != '_')) = ((splitSign cs).1, (splitSign cs).2.filter (· != '_')) := by
  -- A sign stays in front when the underscores go; without one a digit does, if anything is left.
  rcases splitSign_cases cs with ⟨rest, rfl, hs⟩ | ⟨rest, rfl, hs⟩ | hs
  · rfl
  · rfl
  · rw [hs] at h ⊢
    exact splitSign_of_forall fun c hc ↦ h c (List.mem_of_mem_filter hc)

theorem IsBaseTen.forall_isDigitOrLine (h : IsBaseTen cs) : ∀ c ∈ cs, isDigitOrLine c = true := by
  cases h with
  | zero => simp [isDigitOrLine]
  | other hc hne h =>
    rw [List.forall_mem_cons]
    exact ⟨by simp [isDigitOrLine, hc], h⟩

theorem filterMap_filter_line (cs : List Char) :
    (cs.filter (· != '_')).filterMap Text.digitValue? = cs.filterMap Text.digitValue? := by
  induction cs with
  | nil => rfl
  | cons c rest ih =>
    by_cases hc : c = '_'
    · rw [hc, List.filter_cons_of_neg (by simp), List.filterMap_cons_none digitValue?_line, ih]
    · rw [List.filter_cons_of_pos (by simpa using hc), List.filterMap_cons, List.filterMap_cons, ih]

theorem isRun_of_forall (h : ∀ d ∈ rest, d.isDigit = true) (hc : c.isDigit = true) :
    IsRun (c :: rest) := by
  induction rest generalizing c with
  | nil => exact .one hc
  | cons d rest ih =>
    rw [List.forall_mem_cons] at h
    exact .beside hc (ih h.2 h.1)

theorem isDigit_of_mem_filter (h : ∀ d ∈ rest, isDigitOrLine d = true) :
    ∀ d ∈ rest.filter (· != '_'), d.isDigit = true := by
  intro d hd
  obtain ⟨hd, hline⟩ := List.mem_filter.1 hd
  rcases digit_or_line (h d hd) with hd | rfl
  · exact hd
  · simp at hline

theorem signed_eq (h : splitSign cs = (negative, c :: rest)) :
    Yaml.Constant.signed cs = .ok (negative, c :: rest) := by
  cases cs with
  | nil => cases h
  | cons => rw [Yaml.Constant.signed, List.isEmpty_cons, h]; rfl

/-- Without underscores, what does not begin with a zero is read to the base of ten. -/
theorem int_eq_decimal (hx : splitSign (Yaml.Constant.withoutLines x) = (negative, c :: cs))
    (hne : c ≠ '0') (hcolon : ':' ∉ c :: cs) :
    Yaml.Constant.int x =
      (Yaml.Constant.decimal (c :: cs)).map fun n ↦ if negative then -n else n := by
  rw [Yaml.Constant.int, signed_eq hx]
  simp only [bind, Except.bind]
  -- Every case but the last is of an empty numeral or of one that begins with a zero.
  split
  · next h => cases h
  · next h => exact absurd (List.cons.inj h).1 hne
  · next h => exact absurd (List.cons.inj h).1 hne
  · next h => exact absurd (List.cons.inj h).1 hne
  · next h => exact absurd (List.cons.inj h).1 hne
  · rw [if_neg (by simpa using hcolon)]
    cases Yaml.Constant.decimal (c :: cs) <;> rfl

theorem of_decimal (h : ∀ d ∈ c :: rest, d.isDigit = true)
    (hn : Yaml.Constant.decimal (c :: rest) = .ok n) :
    ((c :: rest).filterMap Text.digitValue?).length ≤ longestNumeral ∧
      n = ofDigits ((c :: rest).filterMap Text.digitValue?) := by
  have hrun : IsRun (c :: rest) := isRun_of_forall (List.forall_mem_cons.1 h).2 (h c (List.mem_cons_self ..))
  have hline : ∀ d ∈ c :: rest, isDigitOrLine d = true := fun d hd ↦ by simp [isDigitOrLine, h d hd]
  have hsign : splitSign (String.ofList (c :: rest)).toList = (false, c :: rest) := by
    rw [String.toList_ofList]
    exact splitSign_of_forall hline
  rw [Yaml.Constant.decimal, integer_eq hsign hline, hrun.digitRun?_eq, Option.elim] at hn
  split at hn
  · cases hn
  · next hlong =>
    cases hn
    exact ⟨not_lt.1 hlong, rfl⟩

theorem of_int (hx : splitSign x.toList = (negative, cs)) (h : IsBaseTen cs)
    (hn : Yaml.Constant.int x = .ok n) :
    (cs.filterMap Text.digitValue?).length ≤ longestNumeral ∧
      n = if negative then -(ofDigits (cs.filterMap Text.digitValue?) : Int)
        else ofDigits (cs.filterMap Text.digitValue?) := by
  have hsplit : splitSign (Yaml.Constant.withoutLines x) = (negative, cs.filter (· != '_')) := by
    rw [Yaml.Constant.withoutLines, splitSign_filter (by rw [hx]; exact h.forall_isDigitOrLine), hx]
  cases h with
  | zero =>
    rw [Yaml.Constant.int, signed_eq hsplit] at hn
    cases hn
    have hdigits : ['0'].filterMap Text.digitValue? = [0] := by decide
    rw [hdigits]
    exact ⟨by decide, rfl⟩
  | @other c rest hc hne h =>
    have hall : ∀ d ∈ c :: rest.filter (· != '_'), d.isDigit = true :=
      List.forall_mem_cons.2 ⟨hc, isDigit_of_mem_filter h⟩
    have hcolon : ':' ∉ c :: rest.filter (· != '_') := fun hmem ↦ absurd (hall _ hmem) (by decide)
    have hdigits : (c :: rest.filter (· != '_')).filterMap Text.digitValue? =
        (c :: rest).filterMap Text.digitValue? := by
      rw [List.filterMap_cons, List.filterMap_cons, filterMap_filter_line]
    rw [List.filter_cons_of_pos (by simpa using ne_line_of_isDigit hc)] at hsplit
    rw [int_eq_decimal hsplit hne hcolon] at hn
    rcases hm : Yaml.Constant.decimal (c :: rest.filter (· != '_')) with f | m <;> rw [hm] at hn <;> cases hn
    obtain ⟨hlong, rfl⟩ := of_decimal hall hm
    rw [← hdigits]
    exact ⟨hlong, rfl⟩

/-- A numeral that a document reads is read from a text just if its underscores stand between digits, and
then as the same number. -/
theorem integer_of_int (hx : splitSign x.toList = (negative, cs)) (h : IsBaseTen cs)
    (hn : Yaml.Constant.int x = .ok n) :
    (IsRun cs → integer x = .ok n) ∧ (¬ IsRun cs → integer x = .error .malformed) := by
  obtain ⟨hlong, rfl⟩ := of_int hx h hn
  rw [integer_eq hx h.forall_isDigitOrLine]
  constructor
  · intro hrun
    rw [hrun.digitRun?_eq, Option.elim, if_neg (not_lt.2 hlong)]
  · intro hrun
    rcases hds : digitRun? cs with _ | ds
    · rfl
    · exact absurd (isRun_of_digitRun? h.forall_isDigitOrLine hds) hrun

end Number

end Stylesheet
