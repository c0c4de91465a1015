import Mathlib
import Stylesheet.Yaml.Layout

namespace Stylesheet

namespace Fault

def isAsked : Fault → Bool
  | .asked _ _ => true
  | _ => false

def IsUnasked (f : Fault) : Prop := f.isAsked = false

theorem IsUnasked.isError {f : Fault} (h : f.IsUnasked) : f.isError = true := by
  cases f with
  | asked kind text => cases h
  | files trouble path => cases trouble <;> simp [Fault.isError, kind, troubleKind, stopKinds]
  | _ => simp [Fault.isError, kind, stopKinds]

end Fault

section

variable {α β : Type} {p : α → Prop} {q : β → Prop} {x : Except Fault α} {f : α → Except Fault β}

/-- A result has the property, or the fault is one that no program asks for. -/
inductive Yields (p : α → Prop) : Except Fault α → Prop
  | ok {a : α} (h : p a) : Yields p (.ok a)
  | error {f : Fault} (h : f.IsUnasked) : Yields p (.error f)

theorem Yields.of_ok {a : α} (h : Yields p (.ok a)) : p a := by
  cases h with
  | ok h => exact h

theorem Yields.of_error {e : Fault} (h : Yields p (.error e)) : e.IsUnasked := by
  cases h with
  | error h => exact h

theorem Yields.bind (hx : Yields p x) (hf : ∀ a, p a → Yields q (f a)) : Yields q (x >>= f) := by
  cases hx with
  | ok h => exact hf _ h
  | error h => exact .error h

theorem Yields.map {g : α → β} (hx : Yields p x) (hg : ∀ a, p a → q (g a)) :
    Yields q (x.map g) := by
  cases hx with
  | ok h => exact .ok (hg _ h)
  | error h => exact .error h

theorem Yields.guard {b : Bool} {e : Fault} {g : PUnit → Except Fault α} (he : e.IsUnasked)
    (hx : Yields p x) : Yields p (if b = true then throw e >>= g else x) := by
  cases b with
  | false => exact hx
  | true => exact .error he

abbrev OnlyUnasked (x : Except Fault α) : Prop := Yields (fun _ ↦ True) x

theorem Yields.mapM {l : List α} (hf : ∀ a, Yields q (f a)) :
    OnlyUnasked (l.mapM f) := by
  induction l with
  | nil => exact .ok trivial
  | cons a l ih =>
    rw [List.mapM_cons]
    exact (hf a).bind fun b _ ↦ ih.bind fun bs _ ↦ .ok trivial

theorem Yields.ite {c : Prop} [Decidable c] {y : Except Fault α} (hx : Yields p x)
    (hy : Yields p y) : Yields p (if c then x else y) := by
  split
  · exact hx
  · exact hy

end

namespace Yaml

namespace Cursor

variable (c : Cursor) (p : Char → Bool)

@[simp]
theorem step_trouble : c.step.trouble = c.trouble := by
  rw [step]
  split
  · rfl
  · split <;> rfl

@[simp]
theorem forward_trouble (n : Nat) : (c.forward n).trouble = c.trouble := by
  induction n generalizing c with
  | zero => rfl
  | succ n ih => rw [forward, ih, step_trouble]

@[simp]
theorem run_trouble : (c.run p).2.trouble = c.trouble := forward_trouble c _

@[simp]
theorem skip_trouble : (c.skip p).trouble = c.trouble := run_trouble c p

@[simp]
theorem lineEnd_trouble : c.lineEnd.2.trouble = c.trouble := by
  rw [lineEnd]
  split
  · rfl
  · split <;> simp

theorem toToken.go_trouble (inComment : Bool) (cs : List Char) :
    (toToken.go inComment cs c).trouble = c.trouble := by
  induction cs generalizing c inComment with
  | nil => rfl
  | cons ch rest ih =>
    rw [toToken.go]
    split_ifs <;> simp [ih]

@[simp]
theorem toToken_trouble : c.toToken.trouble = c.trouble := toToken.go_trouble c _ _

theorem pastLines.go_trouble (cs : List Char) : (pastLines.go p cs c).2.trouble = c.trouble := by
  induction cs generalizing c with
  | nil => rfl
  | cons ch rest ih =>
    rw [pastLines.go]
    split_ifs <;> simp [ih]

@[simp]
theorem pastLines_trouble : (c.pastLines p).2.trouble = c.trouble := pastLines.go_trouble c p _

def IsSound : Prop := ∀ f, c.trouble = some f → f.IsUnasked

variable {c} {c' : Cursor}

theorem IsSound.of_trouble (h : c.IsSound) (hc : c'.trouble = c.trouble) : c'.IsSound := by
  rwa [IsSound, hc]

theorem IsSound.step (h : c.IsSound) : c.step.IsSound := h.of_trouble (step_trouble c)

theorem IsSound.forward (h : c.IsSound) (n : Nat) : (c.forward n).IsSound :=
  h.of_trouble (forward_trouble c n)

theorem IsSound.run (h : c.IsSound) (p : Char → Bool) : (c.run p).2.IsSound :=
  h.of_trouble (run_trouble c p)

theorem IsSound.skip (h : c.IsSound) (p : Char → Bool) : (c.skip p).IsSound :=
  h.of_trouble (skip_trouble c p)

theorem IsSound.misfit (h : c.IsSound) : c.misfit.IsUnasked := by
  rw [Cursor.misfit]
  split
  · rcases hf : c.trouble with _ | f
    · rfl
    · exact h f hf
  · rfl

theorem IsSound.pastIdleLine (h : c.IsSound) : Yields IsSound c.pastIdleLine := by
  have hspaces : (c.skip (· == ' ')).IsSound := h.skip _
  have hidle : (if (c.skip (· == ' ')).rest.head? == some '#' then
      (c.skip (· == ' ')).skip fun ch ↦ !isBreak ch else c.skip (· == ' ')).IsSound := by
    split
    · exact hspaces.skip _
    · exact hspaces
  rw [Cursor.pastIdleLine]
  exact .ite (.ok (hidle.of_trouble (lineEnd_trouble _))) (.error hidle.misfit)

end Cursor

@[simp]
theorem plainGap_trouble (c : Cursor) : (plainGap c).2.trouble = c.trouble := by
  simp only [plainGap]
  split <;> simp

@[simp]
theorem plainRuns_trouble (inBrackets : Bool) (least fuel : Nat) (done gap : List Char) (c : Cursor) :
    (plainRuns inBrackets least fuel done gap c).2.2.trouble = c.trouble := by
  induction fuel generalizing done gap c with
  | zero => rfl
  | succ fuel ih =>
    rw [plainRuns]
    split
    · rfl
    · simp only
      split <;> simp [ih]

@[simp]
theorem plain_trouble (inBrackets : Bool) (least : Nat) (c : Cursor) :
    (plain inBrackets least c).2.2.trouble = c.trouble := by
  simp [plain]

theorem gap_go_trouble (limit : Nat) (cs : List Char) (c : Cursor) :
    (Block.gap.go limit cs c).2.2.trouble = c.trouble := by
  induction cs generalizing c with
  | nil => rfl
  | cons ch rest ih =>
    rw [Block.gap.go]
    split_ifs <;> simp [ih]

@[simp]
theorem gap_trouble (limit : Nat) (c : Cursor) : (Block.gap limit c).2.2.trouble = c.trouble :=
  gap_go_trouble limit _ c

@[simp]
theorem lines_trouble (folds : Bool) (column fuel : Nat) (done breaks : List Char) (c : Cursor) :
    (Block.lines folds column fuel done breaks c).2.2.2.trouble = c.trouble := by
  induction fuel generalizing done breaks c with
  | zero => rfl
  | succ fuel ih =>
    rw [Block.lines]
    simp only
    split_ifs <;> simp [ih]

section

variable {α : Type} {c : Cursor}

abbrev Advances (x : Except Fault (α × Cursor)) : Prop := Yields (fun r ↦ r.2.IsSound) x

variable (h : c.IsSound)

include h

theorem quotedLines_advances : Advances (quotedLines c) := by
  have hnext : (c.pastLines isBlank).2.IsSound := h.of_trouble (Cursor.pastLines_trouble ..)
  rw [quotedLines]
  exact .ite (.error rfl) (.ok hnext)

theorem quotedGap_advances : Advances (quotedGap c) := by
  have hnext : (c.run isBlank).2.IsSound := h.run _
  rw [quotedGap]
  exact .ite ((quotedLines_advances hnext).map fun _ hr ↦ hr) (.ok hnext)

omit h in
theorem codeChar_onlyUnasked (code : Nat) (after : List Char) :
    OnlyUnasked (codeChar code after) := by
  rw [codeChar]
  refine .ite (.error rfl) <| .ite (.error rfl) <| .ite (.ok trivial) ?_
  split
  · exact .ite (.ok trivial) (.ok trivial)
  · exact .ok trivial

theorem escape_advances : Advances (escape c) := by
  have hbody : c.step.IsSound := h.step
  rw [escape]
  split
  · exact .error hbody.misfit
  · split
    · exact .ok hbody.step
    · split
      · exact .error (hbody.step.skip _).misfit
      · exact (codeChar_onlyUnasked _ _).map fun _ _ ↦ hbody.forward _
    · exact .ite (quotedLines_advances hbody.step) (.error rfl)

theorem quotedRest_advances (quote : Char) (fuel : Nat) (done : List Char) :
    Advances (quotedRest quote fuel done c) := by
  induction fuel generalizing done c with
  | zero => exact .error rfl
  | succ fuel ih =>
    rw [quotedRest]
    split
    · exact .error h.misfit
    · refine .ite (.ite (ih (h.forward 2) _) (.ok h.step)) <| .ite ?_ <| .ite ?_ (ih h.step _)
      · split
        · next he => exact .error (he ▸ escape_advances h).of_error
        · next he => exact ih (he ▸ escape_advances h).of_ok _
      · split
        · next he => exact .error (he ▸ quotedGap_advances h).of_error
        · next he => exact ih (he ▸ quotedGap_advances h).of_ok _

theorem quoted_advances (quote : Char) : Advances (quoted quote c) :=
  (quotedRest_advances h.step quote _ _).map fun _ hr ↦ hr

theorem anchorName_advances : Advances (anchorName c) := by
  have hnext : (c.step.run isWordChar).2.IsSound := h.step.run _
  rw [anchorName]
  exact .ite (.error hnext.misfit) (.ok hnext)

omit h in
theorem codedBytes_onlyUnasked (cs : List Char) : OnlyUnasked (codedBytes cs) := by
  fun_induction codedBytes cs with
  | case1 a b rest hdigits ih => exact ih.map fun _ _ ↦ trivial
  | case2 | case3 => exact .error rfl
  | case4 => exact .ok trivial

theorem uriChars_advances (fuel : Nat) : Advances (uriChars fuel c) := by
  induction fuel generalizing c with
  | zero => exact .ok h
  | succ fuel ih =>
    rw [uriChars]
    split
    · exact .ok h
    · refine .ite ?_ <| .ite ?_ (.ok h)
      · refine (codedBytes_onlyUnasked _).bind fun bytes _ ↦ ?_
        split
        · exact .error rfl
        · exact (ih (h.forward _)).bind fun _ hr ↦ .ok hr
      · exact (ih h.step).map fun _ hr ↦ hr

theorem uri_advances : Advances (uri c) := by
  rw [uri]
  exact (uriChars_advances h _).bind fun ⟨chars, next⟩ hr ↦ .guard hr.misfit (.ok hr)

theorem tagHandle_advances : Advances (tagHandle c) := by
  have hnext : (c.step.run isWordChar).2.IsSound := h.step.run _
  rw [tagHandle]
  split
  · exact .ok h.step
  · exact .ite (.ok hnext.step) (.error hnext.misfit)
  · exact .error h.misfit

theorem tagBody_advances {behind : Cursor} (hb : behind.IsSound) :
    Advances (tagName.body c behind) := by
  rw [tagName.body]
  refine .ite ?_ <| .ite (.ok hb) ?_
  · exact (uri_advances hb.step).bind fun r hr ↦ .ite (.ok hr.step) (.error hr.misfit)
  · have hrest (handle : String) {next : Cursor} (hn : next.IsSound) : Advances (do
        let r ← uri next
        return ((⟨some handle, r.1⟩ : TagName), r.2)) := (uri_advances hn).bind fun _ hr ↦ .ok hr
    exact .ite ((tagHandle_advances h).bind fun r hr ↦ hrest r.1 hr) (hrest "!" hb)

theorem tagName_advances : Advances (tagName c) := by
  rw [tagName]
  exact (tagBody_advances h h.step).bind fun r hr ↦ .ite (.ok hr) (.error hr.misfit)

theorem versionNumber_advances : Advances (versionNumber c) := by
  have hnext : (c.run Char.isDigit).2.IsSound := h.run _
  simp only [versionNumber]
  split
  · exact .ok hnext
  · exact .error hnext.misfit
  · exact .error rfl

theorem version_advances : Advances (version c) := by
  rw [version]
  refine (versionNumber_advances (h.skip _)).bind fun ⟨major, next⟩ hr ↦ .guard hr.misfit ?_
  exact (versionNumber_advances hr.step).bind fun _ hr ↦ .ite (.ok hr) (.error hr.misfit)

theorem handleDirective_advances : Advances (handleDirective c) := by
  rw [handleDirective]
  refine (tagHandle_advances (h.skip _)).bind fun ⟨name, next⟩ hr ↦ .guard hr.misfit ?_
  exact (uri_advances (hr.skip _)).bind fun _ hr ↦ .ite (.ok hr) (.error hr.misfit)

theorem directive_advances : Advances (directive c) := by
  have hnext : (c.step.run isWordChar).2.IsSound := h.step.run _
  rw [directive]
  have hrest (d : Directive) {next : Cursor} (hn : next.IsSound) :
      Advances (do return (d, ← next.pastIdleLine)) := hn.pastIdleLine.bind fun _ hr ↦ .ok hr
  refine .guard hnext.misfit <| .ite ?_ <| .ite ?_ ?_
  · exact (version_advances hnext).bind fun r hr ↦ hrest r.1 hr
  · exact (handleDirective_advances hnext).bind fun r hr ↦ hrest r.1 hr
  · exact hrest .other (hnext.skip _)

theorem block_advances (least : Nat) : Advances (Block.read least c) := by
  rw [Block.read]
  obtain ⟨chomping, width, length⟩ := Block.header (c.rest.drop 1)
  refine .guard rfl <| (h.forward _).pastIdleLine.bind fun first hfirst ↦ ?_
  dsimp only
  exact .ok (hfirst.of_trouble (by rw [lines_trouble, gap_trouble]))

end

namespace Layout

variable {l : Layout}

def IsSound (l : Layout) : Prop := l.cursor.IsSound

@[simp]
theorem unwound_cursor (l : Layout) (least : Nat) : (l.unwound least).cursor = l.cursor := by
  rw [unwound]
  split <;> rfl

theorem givenUp_onlyUnasked (c : Cursor) (isOver : Cursor → PossibleKey → Bool)
    (key : Option PossibleKey) : OnlyUnasked (givenUp c isOver key) := by
  rw [givenUp.eq_def]
  split
  · exact .ok trivial
  · exact .ite (.ok trivial) <| .ite (.error rfl) (.ok trivial)

variable (h : l.IsSound)

include h

theorem openedBy_yields (t : Token) : Yields IsSound (l.openedBy t) := by
  rw [openedBy]
  exact .ite (.ok h) <| .ite (.error rfl) <| .ite (.ok h) (.ok h)

theorem withoutStale_yields : Yields IsSound l.withoutStale :=
  (givenUp_onlyUnasked _ _ _).bind fun _ _ ↦
    (Yields.mapM fun _ ↦ givenUp_onlyUnasked _ _ _).bind fun _ _ ↦ .ok h

theorem withoutKey_yields : Yields IsSound l.withoutKey := (givenUp_onlyUnasked _ _ _).map fun _ _ ↦ h

theorem withKey_yields : Yields IsSound l.withKey := by
  rw [withKey]
  exact .ite (.ok h) <| (withoutKey_yields h).bind fun _ hl ↦ .ok hl

theorem withoutKey_unwound_yields (least : Nat) : Yields IsSound (l.unwound least).withoutKey :=
  withoutKey_yields (by rwa [IsSound, unwound_cursor])

theorem finish_yields : Yields IsSound l.finish :=
  (withoutKey_unwound_yields h 0).bind fun _ hl ↦ .ok hl

section

variable {read : Cursor → Except Fault (Token × Cursor)}
  (hread : ∀ c : Cursor, c.IsSound → Advances (read c))

include hread

theorem apart_yields : Yields IsSound (l.apart read) :=
  (withoutKey_unwound_yields h 0).bind fun l hl ↦ (hread l.cursor hl).bind fun _ hr ↦ .ok hr

theorem simple_yields : Yields IsSound (l.simple read) :=
  (withKey_yields h).bind fun l hl ↦ (hread l.cursor hl).bind fun _ hr ↦ .ok hr

end

theorem step_isSound : l.step.IsSound := Cursor.IsSound.step h

theorem marker_yields (t : Token) : Yields IsSound (l.marker t) :=
  apart_yields h fun _ hc ↦ .ok (hc.forward 3)

theorem opening_yields (t : Token) : Yields IsSound (l.opening t) :=
  (withKey_yields h).bind fun _ hl ↦ .ok (step_isSound hl)

theorem closing_yields (t : Token) : Yields IsSound (l.closing t) :=
  (withoutKey_yields h).bind fun _ hl ↦ .ok (step_isSound hl)

theorem comma_yields : Yields IsSound l.comma :=
  (withoutKey_yields h).bind fun _ hl ↦ .ok (step_isSound hl)

theorem entry_yields : Yields IsSound l.entry :=
  (openedBy_yields h _).bind fun _ hl ↦ (withoutKey_yields hl).bind fun _ hl ↦ .ok (step_isSound hl)

theorem explicitKey_yields : Yields IsSound l.explicitKey :=
  (openedBy_yields h _).bind fun _ hl ↦ (withoutKey_yields hl).bind fun _ hl ↦ .ok (step_isSound hl)

theorem colon_yields : Yields IsSound l.colon := by
  rw [colon]
  split
  · refine .ok (Cursor.IsSound.of_trouble h ?_)
    exact (Cursor.step_trouble _).trans (by split <;> rfl)
  · exact (openedBy_yields h _).bind fun _ hl ↦ .ok (step_isSound hl)

theorem plainScalar_yields : Yields IsSound l.plainScalar := by
  rw [plainScalar]
  have hplain : (plain l.inBrackets l.leastColumn l.cursor).2.2.IsSound :=
    h.of_trouble (plain_trouble ..)
  exact (withKey_yields h).bind fun _ _ ↦ .ok hplain

theorem quotedScalar_yields (quote : Char) : Yields IsSound (l.quotedScalar quote) :=
  simple_yields h fun _ hc ↦ (quoted_advances hc quote).map fun _ hr ↦ hr

theorem blockScalar_yields : Yields IsSound l.blockScalar :=
  (withoutKey_yields h).bind fun _ hl ↦ (block_advances hl _).bind fun _ hr ↦ .ok hr

theorem token_yields : Yields IsSound l.token := by
  rw [token]
  split
  · exact finish_yields h
  · refine .ite ?_ <| .ite (marker_yields h _) <| .ite (marker_yields h _) <|
      .ite (opening_yields h _) <| .ite (opening_yields h _) <| .ite (closing_yields h _) <|
      .ite (closing_yields h _) <| .ite (comma_yields h) <| .ite (entry_yields h) <|
      .ite (explicitKey_yields h) <| .ite (colon_yields h) <| .ite ?_ <| .ite ?_ <| .ite ?_ <|
      .ite (blockScalar_yields h) <| .ite (quotedScalar_yields h _) <|
      .ite (plainScalar_yields h) (.error rfl)
    · exact apart_yields h fun _ hc ↦ (directive_advances hc).map fun _ hr ↦ hr
    · exact simple_yields h fun _ hc ↦ (anchorName_advances hc).map fun _ hr ↦ hr
    · exact simple_yields h fun _ hc ↦ (anchorName_advances hc).map fun _ hr ↦ hr
    · exact simple_yields h fun _ hc ↦ (tagName_advances hc).map fun _ hr ↦ hr

theorem ended_yields : Yields IsSound (next.ended l) := by
  rw [next.ended]
  split
  · next ht => exact .error (h _ ht)
  · exact .ok h

theorem next_yields : Yields IsSound l.next := by
  have hcursor (allowsKey : Bool) : IsSound { l with cursor := l.cursor.toToken, allowsKey } :=
    Cursor.IsSound.of_trouble h (Cursor.toToken_trouble _)
  refine (withoutStale_yields (hcursor _)).bind fun m hm ↦ ?_
  have hunwound : (m.unwound (l.cursor.toToken.column + 1)).IsSound := by rwa [IsSound, unwound_cursor]
  exact (token_yields hunwound).bind fun _ hl ↦ ended_yields hl

theorem isUnasked_of_run {fuel : Nat} {ts : List Token} {f : Fault}
    (hrun : run fuel l = (ts, some f)) : f.IsUnasked := by
  induction fuel generalizing l with
  | zero => cases hrun
  | succ fuel ih =>
    have hstale := withoutStale_yields h
    rw [run] at hrun
    rcases hm : l.withoutStale with e | m <;> rw [hm] at hstale hrun
    · cases hrun
      exact hstale.of_error
    have hnext := next_yields hstale.of_ok
    dsimp only at hrun
    rcases hk : m.next with e | k <;> rw [hk] at hnext hrun
    · cases hrun
      exact hnext.of_error
    dsimp only at hrun
    split at hrun
    · cases hrun
    · exact ih hnext.of_ok hrun

end Layout

end Yaml

end Stylesheet
