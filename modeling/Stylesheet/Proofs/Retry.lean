import Stylesheet.Proofs.Orderly

namespace Stylesheet

open Build

/-- One thing that a body does to its sheet. -/
inductive Act where
  | line (words : String)
  | assignment (name : Value) (token shown key : String)
  | raw (words : String)
  | opening (heading : String)
  | leaving
  | closing
deriving Inhabited

def Act.apply (S : Sheet) : Act → Sheet
  | .line words => S.write (.line · words)
  | .assignment name token shown key =>
    (S.write (.assignment · name token shown)).assign key token
  | .raw words => S.append (.raw words)
  | .opening heading => (S.write (.opening · heading)).deepen
  | .leaving => S.rise
  | .closing => S.write .closing

namespace Sheet

def after (S : Sheet) (acts : List Act) : Sheet := acts.foldl Act.apply S

variable {S T U : Sheet}

theorem after_append (S : Sheet) (acts more : List Act) :
    S.after (acts ++ more) = (S.after acts).after more := List.foldl_append

theorem after_concat (S : Sheet) (acts : List Act) (a : Act) :
    S.after (acts ++ [a]) = a.apply (S.after acts) := S.after_append acts [a]

theorem Becomes.after (h : Becomes S T) (hs : S.IsBuilding) : ∃ acts, T = S.after acts := by
  induction h with
  | refl => exact ⟨[], rfl⟩
  | trans h _ ih₁ ih₂ =>
    obtain ⟨acts, rfl⟩ := ih₁ hs
    obtain ⟨_, hx⟩ := h.extends hs
    obtain ⟨more, rfl⟩ := ih₂ hx.building
    exact ⟨_, (after_append _ acts more).symm⟩
  | line words => exact ⟨[.line words], rfl⟩
  | assignment name token shown key => exact ⟨[.assignment name token shown key], rfl⟩
  | raw words _ _ ih =>
    obtain ⟨acts, rfl⟩ := ih hs
    exact ⟨_, (after_concat _ acts (.raw words)).symm⟩
  | leftBlock heading _ _ ih =>
    obtain ⟨acts, rfl⟩ := ih ⟨hs.output, hs.rendering⟩
    exact ⟨_, (after_concat _ (.opening heading :: acts) .leaving).symm⟩
  | block heading _ _ _ ih =>
    obtain ⟨acts, rfl⟩ := ih ⟨hs.output, hs.rendering⟩
    refine ⟨(.opening heading :: acts) ++ [.leaving] ++ [.closing], ?_⟩
    rw [after_concat, after_concat]
    rfl
  | finish _ hr | abandon _ hr => simp [hs.rendering] at hr

/-- Sheets with the same things written on them. -/
structure Agrees (S T : Sheet) : Prop where
  chunks : S.chunks = T.chunks
  indentation : S.indentation = T.indentation
  tokens : S.tokens = T.tokens

theorem Agrees.apply (h : Agrees S T) (a : Act) : Agrees (a.apply S) (a.apply T) := by
  obtain ⟨hc, hi, ht⟩ := h
  cases a <;>
    exact ⟨by simp [Act.apply, write, append, assign, deepen, rise, hc, hi],
      by simp [Act.apply, write, append, assign, deepen, rise, hi],
      by simp [Act.apply, write, append, assign, deepen, rise, ht]⟩

theorem Agrees.after (h : Agrees S T) (acts : List Act) :
    Agrees (S.after acts) (T.after acts) := by
  induction acts generalizing S T with
  | nil => exact h
  | cons a acts ih => exact ih (h.apply a)

theorem Agrees.document (h : Agrees S T) : S.document = T.document := by
  rw [Sheet.document, h.chunks, Sheet.document]

theorem agrees_start (b : Option Body) : Agrees (start { body := b }) {} := ⟨rfl, rfl, rfl⟩

theorem Extends.abandon {added : List Chunk} {b : Option Body} (h : Extends added S T)
    (hs : S.body = b) : T.abandon = { body := b } := by
  obtain ⟨body, chunks, indentation, tokens, output, rendering⟩ := T
  have ho : output = none := h.building.output
  have hb : body = b := h.body.trans hs
  simp [Sheet.abandon, ho, hb]

end Sheet

namespace Builder

variable {limit : Nat} {id : SheetId} {s t u : Studio} {b : Option Body}

theorem started_develops {v : Studio} {r : Except Fault Unit} (hid : id < t.sheets.length)
    (ho : (t.sheet id).output = none)
    (h : (runSheetBody (runBodyWithin limit) id).on (started id t) = (r, v)) :
    ((t.sheet id).start).IsBuilding ∧ (t.sheet id).start.Becomes (v.sheet id) := by
  have hd := (runSheetBody_isOrderly (runBodyWithin_isOrderly limit) id).develops h
  have hb := (hd id (by simpa [started] using hid)).2
  rw [started, t.sheet_updateSheet_self id _ hid] at hb
  exact ⟨⟨ho, rfl⟩, hb⟩

theorem failed_attempt {e : Fault} (hid : id < t.sheets.length)
    (ho : (t.sheet id).output = none) (hr : (t.sheet id).rendering = false)
    (hb : (t.sheet id).body = b)
    (h : (render (runBodyWithin limit) id).on t = (.error e, u)) :
    (∃ v, (runSheetBody (runBodyWithin limit) id).on (started id t) = (.error e, v)) ∧
      id < u.sheets.length ∧ u.sheet id = { body := b } := by
  obtain ⟨v, hv, hl, rfl⟩ := of_render_error (runBodyWithin_isOrderly limit) hid ho hr h
  obtain ⟨hs, hd⟩ := started_develops hid ho hv
  obtain ⟨_, hx⟩ := hd.extends hs
  rw [v.sheet_updateSheet_self id _ hl]
  exact ⟨⟨v, hv⟩, by simpa using hl, hx.abandon hb⟩

/-- Failed attempts to build the text of a sheet, and between them work that leaves the sheet alone.
The number is that of the attempts. -/
inductive Attempts (limit : Nat) (id : SheetId) : Nat → Studio → Studio → Prop
  | start (s : Studio) : Attempts limit id 0 s s
  | other {k : Nat} {s t u : Studio} : Attempts limit id k s t → id < u.sheets.length →
      u.sheet id = t.sheet id → Attempts limit id k s u
  | failed {k : Nat} {s t u : Studio} {e : Fault} : Attempts limit id k s t →
      (render (runBodyWithin limit) id).on t = (.error e, u) → Attempts limit id (k + 1) s u

theorem Attempts.sheet {k : Nat} (h : Attempts limit id k s t) (hid : id < s.sheets.length)
    (hs : s.sheet id = { body := b }) : id < t.sheets.length ∧ t.sheet id = { body := b } := by
  induction h with
  | start => exact ⟨hid, hs⟩
  | other _ hl he ih => exact ⟨hl, he.trans (ih hid hs).2⟩
  | failed _ hf ih =>
    obtain ⟨hl, ht⟩ := ih hid hs
    exact (failed_attempt hl (by rw [ht]) (by rw [ht]) (by rw [ht]) hf).2

/-- What a successful attempt returns is written by its own run of the body. -/
theorem successful_attempt {T : String} (ht : t.sheet id = { body := b })
    (h : (render (runBodyWithin limit) id).on t = (.ok T, u)) :
    ∃ v acts, (runSheetBody (runBodyWithin limit) id).on (started id t) = (.ok (), v) ∧
      v.sheet id = (Sheet.start { body := b }).after acts := by
  obtain ⟨hid, -, v, hv, -, -, -⟩ :=
    of_render_ok (runBodyWithin_isOrderly limit) (by rw [ht]) h
  obtain ⟨hs, hd⟩ := started_develops hid (by rw [ht]) hv
  obtain ⟨acts, ha⟩ := hd.after hs
  exact ⟨v, acts, hv, by rw [ha, ht]⟩

/-- The text of a sheet as it was made is what its body does to a blank one. -/
theorem render_of_acts {acts : List Act} {v : Studio} (hid : id < t.sheets.length)
    (ht : t.sheet id = { body := b })
    (hv : (runSheetBody (runBodyWithin limit) id).on (started id t) = (.ok (), v))
    (ha : v.sheet id = (Sheet.start { body := b }).after acts) :
    ∃ u, (render (runBodyWithin limit) id).on t = (.ok (({} : Sheet).after acts).document, u) ∧
      (u.sheet id).chunks = (({} : Sheet).after acts).chunks ∧
      (u.sheet id).tokens = (({} : Sheet).after acts).tokens := by
  have hd := (runSheetBody_isOrderly (runBodyWithin_isOrderly limit) id).develops hv
  have hl := (hd id (by simpa [started] using hid)).1
  have hag := (Sheet.agrees_start b).after acts
  refine ⟨rendered id v, ?_, ?_, ?_⟩
  · rw [on_render_ok hid (by rw [ht]) (by rw [ht]) hl hv, ha, hag.document]
  · rw [rendered_sheet hl, ha]
    exact hag.chunks
  · rw [rendered_sheet hl, ha]
    exact hag.tokens

/-- A sheet that only its own body writes on is as it was made after any number of failed attempts to
build its text. Another failing attempt passes on the error of the body, and a successful one returns
what it would return if the sheet had just been made: the text of what this run of the body has done,
which any other new sheet returns whose body does the same. -/
theorem retry_is_fresh {limit k : Nat} {id : SheetId} {b : Option Body} {s t : Studio}
    (hid : id < s.sheets.length) (hs : s.sheet id = { body := b })
    (h : Attempts limit id k s t) :
    t.sheet id = { body := b } ∧
    (render (runBodyWithin limit) id).on t =
      (render (runBodyWithin limit) id).on (t.updateSheet id fun _ ↦ { body := b }) ∧
    (∀ e u, (render (runBodyWithin limit) id).on t = (.error e, u) →
      (∃ v, (runSheetBody (runBodyWithin limit) id).on (started id t) = (.error e, v)) ∧
      u.sheet id = { body := b }) ∧
    ∀ T u, (render (runBodyWithin limit) id).on t = (.ok T, u) →
      ∃ v acts, (runSheetBody (runBodyWithin limit) id).on (started id t) = (.ok (), v) ∧
        v.sheet id = (Sheet.start { body := b }).after acts ∧
        T = (({} : Sheet).after acts).document ∧
        (u.sheet id).tokens = (({} : Sheet).after acts).tokens ∧
        ∀ limit' j b' s' v', j < s'.sheets.length → s'.sheet j = { body := b' } →
          (runSheetBody (runBodyWithin limit') j).on (started j s') = (.ok (), v') →
          v'.sheet j = (Sheet.start { body := b' }).after acts →
          ∃ u', (render (runBodyWithin limit') j).on s' = (.ok T, u') ∧
            (u'.sheet j).chunks = (u.sheet id).chunks ∧
            (u'.sheet j).tokens = (u.sheet id).tokens := by
  obtain ⟨hl, ht⟩ := h.sheet hid hs
  refine ⟨ht, ?_, fun e u he ↦ ?_, fun T u hT ↦ ?_⟩
  · rw [t.updateSheet_of_eq id _ ht.symm]
  · obtain ⟨hv, -, hu⟩ := failed_attempt hl (by rw [ht]) (by rw [ht]) (by rw [ht]) he
    exact ⟨hv, hu⟩
  · obtain ⟨v, acts, hv, ha⟩ := successful_attempt ht hT
    obtain ⟨u₁, h₁, hc₁, ht₁⟩ := render_of_acts hl ht hv ha
    rw [hT, Prod.mk.injEq, Except.ok.injEq] at h₁
    obtain ⟨rfl, rfl⟩ := h₁
    refine ⟨v, acts, hv, ha, rfl, ht₁, fun limit' j b' s' v' hj hs' hv' ha' ↦ ?_⟩
    obtain ⟨u', h', hc', ht'⟩ := render_of_acts hj hs' hv' ha'
    exact ⟨u', h', hc'.trans hc₁.symm, ht'.trans ht₁.symm⟩

/-- A body that fails inside a block the first time it is run. -/
def onceFailing : Body where
  steps := [.call .argument "mixin" [.atom (.text "m"), .body none
    [.call .argument "extend" [.atom (.text ".b")] [] none,
      .fail 0 (.asked "ValueError" none) (some 1)]] [] none]

theorem second_attempt_is_fresh :
    0 < (Studio.withRoot {} (some onceFailing)).sheets.length ∧
    (Studio.withRoot {} (some onceFailing)).sheet 0 = { body := some onceFailing } ∧
    ∃ t, Attempts 3 0 1 (Studio.withRoot {} (some onceFailing)) t ∧
      t.sheet 0 = { body := some onceFailing } ∧
      ∃ T u, ∃ v : Studio, ∃ acts, (render (runBodyWithin 3) 0).on t = (.ok T, u) ∧
        v.sheet 0 = (Sheet.start { body := some onceFailing }).after acts ∧
        T = (({} : Sheet).after acts).document := by
  have hs : (Studio.withRoot {} (some onceFailing)).sheet 0 = { body := some onceFailing } := rfl
  have h := Attempts.failed (.start (Studio.withRoot {} (some onceFailing)))
    (rfl : (render (runBodyWithin 3) 0).on _ = (.error _, _))
  obtain ⟨ht, -, -, hT⟩ := retry_is_fresh Nat.one_pos hs h
  obtain ⟨v, acts, -, ha, hd, -⟩ := hT _ _ rfl
  exact ⟨Nat.one_pos, hs, _, h, ht, _, _, v, acts, rfl, ha, hd⟩

theorem document_of_chunks {S T : Sheet} {added : List Chunk} (h : T.chunks = S.chunks ++ added) :
    T.document = S.document ++ String.join (added.map Chunk.text) := by
  rw [Sheet.document, h, List.map_append, String.join_append, Sheet.document]

theorem returned_of_success {T : String} (ho : (t.sheet id).output = none)
    (h : (render (runBodyWithin limit) id).on t = (.ok T, u)) :
    ∃ v added, (runSheetBody (runBodyWithin limit) id).on (started id t) = (.ok (), v) ∧
      Sheet.Extends added (t.sheet id).start (v.sheet id) ∧
      (u.sheet id).chunks = (t.sheet id).chunks ++ added ∧
      T = (t.sheet id).document ++ String.join (added.map Chunk.text) := by
  obtain ⟨hid, -, v, hv, hl, rfl, rfl⟩ := of_render_ok (runBodyWithin_isOrderly limit) ho h
  obtain ⟨hs, hd⟩ := started_develops hid ho hv
  obtain ⟨added, hx⟩ := hd.extends hs
  have hc : (v.sheet id).chunks = (t.sheet id).chunks ++ added := hx.chunks
  refine ⟨v, added, hv, hx, ?_, document_of_chunks hc⟩
  rw [rendered_sheet hl]
  exact hc

/-- A failed attempt to build the text of a sheet drops all that stands on it, not only what the body
has written: the sheet is as it was made. Its chunks, its tokens and its indentation are those that the
attempt has found only if there were none. An attempt that succeeds later returns what stands on the
sheet by then, and behind it what the body adds; where nothing has been written since, only that. -/
theorem failed_attempt_drops_all {limit : Nat} {id : SheetId} {s t : Studio} {e : Fault}
    (hid : id < s.sheets.length) (ho : (s.sheet id).output = none)
    (hr : (s.sheet id).rendering = false)
    (h : (render (runBodyWithin limit) id).on s = (.error e, t)) :
    t.sheet id = { body := (s.sheet id).body } ∧
    ((t.sheet id).chunks = (s.sheet id).chunks ↔ (s.sheet id).chunks = []) ∧
    ((t.sheet id).tokens = (s.sheet id).tokens ↔ (s.sheet id).tokens = []) ∧
    ((t.sheet id).indentation = (s.sheet id).indentation ↔ (s.sheet id).indentation = 0) ∧
    ∀ limit' u T w, (u.sheet id).output = none →
      (render (runBodyWithin limit') id).on u = (.ok T, w) →
      ∃ v added, (runSheetBody (runBodyWithin limit') id).on (started id u) = (.ok (), v) ∧
        Sheet.Extends added (u.sheet id).start (v.sheet id) ∧
        (w.sheet id).chunks = (u.sheet id).chunks ++ added ∧
        T = (u.sheet id).document ++ String.join (added.map Chunk.text) ∧
        (u.sheet id = t.sheet id → T = String.join (added.map Chunk.text)) := by
  obtain ⟨-, -, ht⟩ := failed_attempt hid ho hr rfl h
  refine ⟨ht, ?_, ?_, ?_, fun limit' u T w hu hw ↦ ?_⟩
  · rw [ht]
    exact eq_comm
  · rw [ht]
    exact eq_comm
  · rw [ht]
    exact eq_comm
  · obtain ⟨v, added, hv, hx, hc, hT⟩ := returned_of_success hu hw
    refine ⟨v, added, hv, hx, hc, hT, fun he ↦ ?_⟩
    have hblank : (u.sheet id).document = "" := by
      rw [he, ht]
      rfl
    rw [hT, hblank, String.empty_append]

def refusing : Body where
  steps := [.fail 0 (.asked "ValueError" none) (some 1)]

/-- A studio whose root sheet a text has been written on directly. -/
def written : Studio :=
  { sheets := [{ body := some refusing, chunks := [.raw "a"] }] }

theorem attempt_drops_written :
    0 < written.sheets.length ∧ (written.sheet 0).output = none ∧
    (written.sheet 0).rendering = false ∧
    ∃ e t, (render (runBodyWithin 1) 0).on written = (.error e, t) ∧
      t.sheet 0 = { body := some refusing } ∧
      ∃ w added, (render (runBodyWithin 1) 0).on t = (.ok "", w) ∧
        (w.sheet 0).chunks = (t.sheet 0).chunks ++ added := by
  have h : (render (runBodyWithin 1) 0).on written = (.error _, _) := rfl
  obtain ⟨ht, -, -, -, hlater⟩ := failed_attempt_drops_all Nat.one_pos rfl rfl h
  obtain ⟨v, added, -, -, hc, -⟩ := hlater 1 _ "" _ (by rw [ht]) rfl
  exact ⟨Nat.one_pos, rfl, rfl, _, _, rfl, ht, _, added, rfl, hc⟩

/-- What was written before a failed attempt is missing from the text of the next one. -/
theorem retried_text_lacks_written :
    let s := Studio.withRoot {} (some refusing)
    let s₁ := ((perform (runBodyWithin 1) 0 (.raw (.text "a"))).on s).2
    let s₂ := ((render (runBodyWithin 1) 0).on s₁).2
    (s₁.sheet 0).document = "a" ∧ (s₂.sheet 0).chunks = [] ∧
      ((render (runBodyWithin 1) 0).on s₂).1 = .ok "" := ⟨rfl, rfl, rfl⟩

end Builder

end Stylesheet
