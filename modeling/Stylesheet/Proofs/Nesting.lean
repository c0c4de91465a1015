import Stylesheet.Proofs.Course

namespace Stylesheet

open Build

namespace Text

def openingLine (margin : Nat) (heading : List Char) : List Char :=
  List.replicate margin ' ' ++ heading ++ [' ', '\x7b', '\n']

def closingLine (margin : Nat) : List Char := List.replicate margin ' ' ++ ['\x7d', '\n']

def isOpening (line : List Char) : Bool := [' ', '\x7b', '\n'].isSuffixOf line

def isClosing (line : List Char) : Bool := line.dropWhile (· == ' ') == ['\x7d', '\n']

/-- Well nested lines, but for so many opening lines that have no closing line. Every closing line has
its opening line before it, at the same margin. -/
inductive Nested : Nat → List (List Char) → Prop
  | nil : Nested 0 []
  | line {u : Nat} {l : List Char} {rest : List (List Char)} (ho : isOpening l = false)
      (hc : isClosing l = false) : Nested u rest → Nested u (l :: rest)
  | block {u v : Nat} {inner rest : List (List Char)} (margin : Nat) (heading : List Char) :
      Nested u inner → Nested v rest →
      Nested (u + v) (openingLine margin heading :: (inner ++ closingLine margin :: rest))
  | unclosed {u : Nat} {rest : List (List Char)} (margin : Nat) (heading : List Char) :
      Nested u rest → Nested (u + 1) (openingLine margin heading :: rest)

theorem isOpening_openingLine (margin : Nat) (heading : List Char) :
    isOpening (openingLine margin heading) = true := by
  rw [isOpening, List.isSuffixOf_iff_suffix, openingLine]
  exact List.suffix_append _ _

theorem isClosing_closingLine (margin : Nat) : isClosing (closingLine margin) = true := by
  have h : (closingLine margin).dropWhile (· == ' ') = ['\x7d', '\n'] := by
    induction margin with
    | zero => rfl
    | succ n ih => exact ih
  rw [isClosing, h]
  rfl

theorem suffix_of_isClosing {l : List Char} (h : isClosing l = true) : ['\x7d', '\n'] <:+ l := by
  rw [isClosing, beq_iff_eq] at h
  rw [← h]
  exact List.dropWhile_suffix _

theorem isClosing_of_isOpening {l : List Char} (h : isOpening l = true) : isClosing l = false := by
  refine Bool.eq_false_iff.2 fun hc ↦ ?_
  have hclosing := suffix_of_isClosing hc
  have hopening : ['\x7b', '\n'] <:+ l := by
    rw [isOpening, List.isSuffixOf_iff_suffix] at h
    exact (List.suffix_cons _ _).trans h
  have heq := List.suffix_of_suffix_length_le hclosing hopening (Nat.le_refl 2)
  exact absurd (heq.eq_of_length rfl) (by decide)

namespace Nested

variable {u v : Nat} {a b : List (List Char)}

theorem append (ha : Nested u a) (hb : Nested v b) : Nested (u + v) (a ++ b) := by
  induction ha with
  | nil => simpa using hb
  | line ho hc _ ih => exact .line ho hc ih
  | @block w x inner rest margin heading hi _ _ ih =>
    have h := Nested.block margin heading hi ih
    simpa [Nat.add_assoc] using h
  | @unclosed w rest margin heading _ ih =>
    rw [Nat.add_right_comm]
    exact .unclosed margin heading ih

theorem count (h : Nested u a) : a.countP isOpening = a.countP isClosing + u := by
  induction h with
  | nil => rfl
  | line ho hc _ ih => simpa [List.countP_cons, ho, hc] using ih
  | block margin heading _ _ ih₁ ih₂ =>
    have ho := isOpening_openingLine margin heading
    have hc := isClosing_closingLine margin
    have ho' : isOpening (closingLine margin) = false :=
      Bool.eq_false_iff.2 fun h ↦ by simp [isClosing_of_isOpening h] at hc
    simp only [List.countP_cons, List.countP_append, ho, ho', hc, isClosing_of_isOpening ho]
    omega
  | unclosed margin heading _ ih =>
    have ho := isOpening_openingLine margin heading
    simp only [List.countP_cons, ho, isClosing_of_isOpening ho, if_true, Bool.false_eq_true, if_false]
    omega

/-- How many opening lines have no closing line can be read off the lines. -/
theorem unique (h : Nested u a) (h' : Nested v a) : u = v := by
  have hu := h.count
  have hv := h'.count
  omega

end Nested

/-- Lines of text with so many blocks that are open behind them, and so many opening lines besides that
have no closing line. -/
inductive Spine : Nat → Nat → List (List Char) → Prop
  | flat {u : Nat} {ls : List (List Char)} : Nested u ls → Spine 0 u ls
  | inside {k u v : Nat} {ls inner : List (List Char)} (heading : List Char) : Spine k u ls →
      Nested v inner → Spine (k + 1) (u + v) (ls ++ openingLine (2 * k) heading :: inner)

namespace Spine

variable {k u v : Nat} {ls more : List (List Char)}

theorem append (h : Spine k u ls) (hm : Nested v more) : Spine k (u + v) (ls ++ more) := by
  cases h with
  | flat h => exact .flat (h.append hm)
  | @inside k w x ls inner heading hs hi =>
    rw [List.append_assoc, Nat.add_assoc]
    exact .inside heading hs (hi.append hm)

theorem opens (h : Spine k u ls) (heading : List Char) :
    Spine (k + 1) u (ls ++ [openingLine (2 * k) heading]) := .inside heading h .nil

theorem leaves (h : Spine (k + 1) u ls) : Spine k (u + 1) ls := by
  cases h with
  | inside heading hs hi => exact hs.append (hi.unclosed (2 * k) heading)

theorem closes (h : Spine (k + 1) u ls) : Spine k u (ls ++ [closingLine (2 * k)]) := by
  cases h with
  | @inside k w x ls inner heading hs hi =>
    have hb := Nested.block (2 * k) heading hi .nil
    have happ := hs.append hb
    rw [List.append_assoc]
    exact happ

/-- If no block that is open is closed, all of them lack their closing lines. -/
theorem nested (h : Spine k u ls) : Nested (u + k) ls := by
  induction k generalizing u with
  | zero =>
    cases h with
    | flat h => exact h
  | succ k ih =>
    have hl := ih h.leaves
    rwa [Nat.add_right_comm] at hl

end Spine

theorem linesOf_line {w rest : List Char} (hw : '\n' ∉ w) :
    linesOf (w ++ '\n' :: rest) = (w ++ ['\n']) :: linesOf rest := by
  induction w with
  | nil => rfl
  | cons c w ih =>
    have hc : c ≠ '\n' := fun h ↦ hw (h ▸ List.mem_cons_self)
    have ht := ih fun h ↦ hw (List.mem_cons_of_mem c h)
    rw [List.cons_append, linesOf, ht]
    · rfl
    · exact hc

end Text

namespace Chunk

/-- A text without braces and without line ends. -/
def IsPlain (words : String) : Prop := ∀ c ∈ words.toList, c ≠ '\x7b' ∧ c ≠ '\x7d' ∧ c ≠ '\n'

instance (words : String) : Decidable (IsPlain words) :=
  List.decidableBAll _ words.toList

def IsTidy : Chunk → Prop
  | .line _ words => IsPlain words
  | .assignment _ _ token shown => IsPlain token ∧ IsPlain shown
  | .opening _ heading => IsPlain heading
  | .closing _ => True
  | .raw _ => False

theorem IsPlain.append {a b : String} (ha : IsPlain a) (hb : IsPlain b) : IsPlain (a ++ b) := by
  intro c hc
  rw [String.toList_append, List.mem_append] at hc
  rcases hc with hc | hc
  · exact ha c hc
  · exact hb c hc

theorem IsPlain.newline {words : String} (h : IsPlain words) : '\n' ∉ words.toList :=
  fun hn ↦ (h _ hn).2.2 rfl

theorem IsTidy.linesOf_append {c : Chunk} (h : c.IsTidy) (rest : List Char) :
    Text.linesOf (c.text.toList ++ rest) = c.text.toList :: Text.linesOf rest := by
  have hline (depth : Int) (words : String) (hw : '\n' ∉ words.toList) :
      Text.linesOf ((lineAt depth words).toList ++ rest) =
        (lineAt depth words).toList :: Text.linesOf rest := by
    have hn : '\n' ∉ (indent depth ++ words).toList := by
      simp [toList_indent, hw]
    have hl : Text.linesOf ((indent depth ++ words).toList ++ '\n' :: rest) = _ :=
      Text.linesOf_line hn
    simpa [lineAt] using hl
  cases c with
  | line depth words => exact hline depth words h.newline
  | assignment depth name token shown =>
    refine hline depth _ ?_
    simp [h.1.newline, h.2.newline]
  | opening depth heading =>
    refine hline depth _ ?_
    simp [IsPlain.newline h]
  | closing depth => exact hline depth _ (by decide)
  | raw words => exact h.elim

theorem toList_opening (depth : Nat) (heading : String) :
    (opening depth heading).text.toList = Text.openingLine (2 * depth) heading.toList := by
  simp [text, lineAt, toList_indent, Text.openingLine]

theorem toList_closing (depth : Nat) :
    (closing depth).text.toList = Text.closingLine (2 * depth) := by
  simp [text, lineAt, toList_indent, Text.closingLine]

theorem nested_line {depth : Int} {words : String} (h : IsPlain words) :
    Text.Nested 0 [(lineAt depth words).toList] := by
  have hmem {c : Char} (hb : c = '\x7b' ∨ c = '\x7d') : c ∉ (lineAt depth words).toList := by
    have hw : c ∉ words.toList := fun hc ↦ by
      rcases hb with rfl | rfl
      · exact (h _ hc).1 rfl
      · exact (h _ hc).2.1 rfl
    rcases hb with rfl | rfl <;> simpa [lineAt, toList_indent] using hw
  refine .line (Bool.eq_false_iff.2 fun ho ↦ ?_) (Bool.eq_false_iff.2 fun hc ↦ ?_) .nil
  · rw [Text.isOpening, List.isSuffixOf_iff_suffix] at ho
    exact hmem (.inl rfl) (ho.subset (by simp))
  · exact hmem (.inr rfl) ((Text.suffix_of_isClosing hc).subset (by simp))

end Chunk

namespace Sheet

def lines (S : Sheet) : List (List Char) := S.chunks.map fun c ↦ c.text.toList

def IsTidy (S : Sheet) : Prop := ∀ c ∈ S.chunks, c.IsTidy

theorem IsTidy.linesOf_document {S : Sheet} (h : S.IsTidy) :
    Text.linesOf S.document.toList = S.lines := by
  have hchunks : ∀ cs : List Chunk, (∀ c ∈ cs, c.IsTidy) →
      Text.linesOf (cs.flatMap fun c ↦ c.text.toList) = cs.map fun c ↦ c.text.toList := by
    intro cs hcs
    induction cs with
    | nil => rfl
    | cons c cs ih =>
      have hc := hcs c List.mem_cons_self
      rw [List.flatMap_cons, hc.linesOf_append, ih fun c' h' ↦ hcs c' (List.mem_cons_of_mem c h')]
      rfl
  have hd : S.document.toList = S.chunks.flatMap fun c ↦ c.text.toList := by
    simp [document, String.toList_join, List.flatMap_map]
  rw [hd, hchunks S.chunks h, lines]

def Stage.Nests (p : Stage) : Prop :=
  p.lost = 0 → p.sheet.IsTidy → Text.Spine p.opened p.unclosed p.sheet.lines

variable {p q : Stage}

theorem Stage.Nests.write {c : Chunk} {k u : Nat} {S : Sheet} (hp : p.Nests) (hl : p.lost = 0)
    (hS : S.chunks = p.sheet.chunks ++ [c]) (ht : S.IsTidy)
    (hc : c.IsTidy → Text.Spine p.opened p.unclosed p.sheet.lines →
      Text.Spine k u (p.sheet.lines ++ [c.text.toList])) : Text.Spine k u S.lines := by
  have hbefore : p.sheet.IsTidy := fun c' h' ↦ ht c' (by rw [hS]; exact List.mem_append_left _ h')
  have hlast : c.IsTidy := ht c (by rw [hS]; exact List.mem_append_right _ List.mem_cons_self)
  have hs := hc hlast (hp hl hbefore)
  rwa [lines, hS, List.map_append]

theorem Move.nests (h : Move p q) (hi : p.sheet.indentation = p.opened - p.lost) (hp : p.Nests) :
    q.Nests := by
  intro hl ht
  cases h with
  | line words =>
    exact hp.write hl rfl ht fun hc hs ↦ hs.append (Chunk.nested_line hc)
  | assignment name token shown =>
    refine hp.write hl rfl ht fun hc hs ↦ hs.append (Chunk.nested_line ?_)
    exact ((hc.1.append (by decide)).append hc.2).append (by decide)
  | raw words => exact (ht (.raw words) (List.mem_append_right _ List.mem_cons_self)).elim
  | opens heading =>
    have hd : p.sheet.indentation = (p.opened : Int) := by
      change p.lost = 0 at hl
      omega
    refine hp.write hl rfl ht fun _ hs ↦ ?_
    rw [hd, Chunk.toList_opening]
    exact hs.opens _
  | @closes k hk =>
    have hd : p.sheet.indentation - 1 = (k : Int) := by
      change p.lost = 0 at hl
      omega
    refine hp.write hl rfl ht fun _ hs ↦ ?_
    rw [rise, hd, Chunk.toList_closing]
    rw [hk] at hs
    exact hs.closes
  | @leaves k hk =>
    have hs := hp hl ht
    rw [hk] at hs
    exact hs.leaves
  | starts | finishes => exact hp hl ht
  | fails =>
    change p.opened = 0 at hl
    rw [hl]
    exact .flat .nil

theorem Course.nests (h : Course p q) (hi : p.sheet.indentation = p.opened - p.lost)
    (hp : p.Nests) : q.Nests := by
  induction h with
  | refl => exact hp
  | tail hc hm ih => exact hm.nests (Course.indentation hc hi) ih

def HasText (S : Sheet) : Prop := ∀ T, S.output = some T → S.IsTidy → T = S.document

theorem Move.hasText (h : Move p q) (hp : p.sheet.HasText) : q.sheet.HasText := by
  intro T hT ht
  cases h with
  | line _ ho | assignment _ _ _ _ ho | opens _ ho | closes _ ho | starts ho =>
    have hT : p.sheet.output = some T := hT
    rw [ho] at hT
    cases hT
  | raw words => exact (ht (.raw words) (List.mem_append_right _ List.mem_cons_self)).elim
  | leaves => exact hp T hT ht
  | finishes => exact (Option.some.inj hT).symm
  | fails hb =>
    have hT : p.sheet.output = some T := hT
    rw [hb.output] at hT
    cases hT

theorem Course.hasText (h : Course p q) (hp : p.sheet.HasText) : q.sheet.HasText := by
  induction h with
  | refl => exact hp
  | tail _ hm ih => exact hm.hasText ih

end Sheet

namespace Builder

open Sheet Text

/-- The text that a sheet gives is well nested but for the opening lines of blocks that an error has
left, or that were still open when the text was made: so many opening lines more than closing lines
there are. No closing line lacks its opening line. This holds of all texts without raw parts, braces and
line ends inside names, values and headings, unless the sheet was last reset inside a block of its
own. -/
theorem text_is_nested {b : Option Body} {p : Stage} (hp : Course { sheet := { body := b } } p)
    (hl : p.lost = 0) {limit : Nat} {s t : Studio} {id : SheetId} {T : String}
    (hs : s.sheet id = p.sheet) (h : (render (runBodyWithin limit) id).on s = (.ok T, t))
    (ht : (t.sheet id).IsTidy) :
    ∃ unclosed, Course p ⟨t.sheet id, p.opened, 0, unclosed⟩ ∧
      Nested (unclosed + p.opened) (linesOf T.toList) ∧
      (linesOf T.toList).countP isOpening =
        (linesOf T.toList).countP isClosing + (unclosed + p.opened) ∧
      (Nested 0 (linesOf T.toList) ↔ unclosed = 0 ∧ p.opened = 0) := by
  have hfresh : Stage.Nests { sheet := { body := b } } := fun _ _ ↦ .flat .nil
  have hblank : HasText { body := b } := fun _ h ↦ nomatch h
  obtain ⟨unclosed, hc, hT⟩ :
      ∃ unclosed, Course p ⟨t.sheet id, p.opened, 0, unclosed⟩ ∧ T = (t.sheet id).document := by
    rcases ho : p.sheet.output with _ | text
    · obtain ⟨unclosed, hc, hT⟩ := render_ok_course hs ho h
      rw [hl] at hc
      exact ⟨unclosed, hc, hT⟩
    · have hso : (s.sheet id).output = some text := hs ▸ ho
      rw [on_render_finished _ hso, Prod.mk.injEq, Except.ok.injEq] at h
      obtain ⟨rfl, rfl⟩ := h
      refine ⟨p.unclosed, ?_, (hs ▸ hp.hasText hblank) _ hso ht⟩
      rw [hs, ← hl]
      exact .refl
  have hall : Course { sheet := { body := b } } ⟨t.sheet id, p.opened, 0, unclosed⟩ := hp.trans hc
  have hnests := hall.nests rfl hfresh rfl ht
  rw [← ht.linesOf_document, ← hT] at hnests
  have hn : Nested (unclosed + p.opened) (linesOf T.toList) := hnests.nested
  refine ⟨unclosed, hc, hn, hn.count, fun h₀ ↦ ?_, fun ⟨hu, ho⟩ ↦ ?_⟩
  · have hsum := hn.unique h₀
    omega
  · rwa [hu, ho] at hn

/-- A block whose body fails, and whose error is caught. -/
def leftOpen : Studio :=
  ((runSteps (runBodyWithin 1) (.sheet 0) [.attempt [.call .root "s" [.atom (.text ".a"), .body none
    [.fail 0 (.asked "ValueError" none) none]] [] none]]).on (Studio.withRoot {} none)).2

theorem left_block_is_nested :
    ∃ p, Course { sheet := { body := none } } p ∧ p.lost = 0 ∧ leftOpen.sheet 0 = p.sheet ∧
      ∃ T t, (render (runBodyWithin 0) 0).on leftOpen = (.ok T, t) ∧ (t.sheet 0).IsTidy ∧
        Nested 1 (linesOf T.toList) := by
  let p : Stage := { sheet := leftOpen.sheet 0, unclosed := 1 }
  have hp : Course { sheet := { body := none } } p :=
    .head (.opens ".a" rfl) (.single (.leaves rfl))
  have ht : ∀ c ∈ [Chunk.opening 0 ".a"], c.IsTidy := by
    simp only [List.mem_singleton, forall_eq]
    exact (by decide : Chunk.IsPlain ".a")
  have hr : (render (runBodyWithin 0) 0).on leftOpen =
      (.ok ".a \x7b\n", ((render (runBodyWithin 0) 0).on leftOpen).2) := rfl
  obtain ⟨unclosed, -, hn, hcount, -⟩ := text_is_nested hp rfl rfl hr ht
  have hu : unclosed = 1 := by
    have hlines : (linesOf ".a \x7b\n".toList).countP isOpening = 1 ∧
        (linesOf ".a \x7b\n".toList).countP isClosing = 0 := by decide
    rw [hlines.1, hlines.2] at hcount
    have hcount : 1 = 0 + (unclosed + 0) := hcount
    omega
  subst hu
  exact ⟨p, hp, rfl, rfl, _, _, hr, ht, hn⟩

/-- The text of a sheet whose block has been left by an error lacks the closing line. -/
theorem left_block_is_unbalanced :
    ((render (runBodyWithin 0) 0).on leftOpen).1 = .ok ".a \x7b\n" ∧
      ¬ Nested 0 (linesOf ".a \x7b\n".toList) := by
  refine ⟨rfl, fun h ↦ ?_⟩
  have hcount := h.count
  revert hcount
  decide

end Builder

end Stylesheet
