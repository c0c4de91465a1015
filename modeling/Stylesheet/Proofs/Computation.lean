import Mathlib.Logic.Relation
import Stylesheet.Builder.Run

namespace Stylesheet

theorem Fault.of_bind_ok {α β : Type} {e : Except Fault α} {f : α → Except Fault β} {b : β}
    (h : e >>= f = .ok b) : ∃ a, e = .ok a ∧ f a = .ok b := by
  cases e with
  | error e => cases h
  | ok a => exact ⟨a, rfl, h⟩

namespace Studio

variable (s : Studio) (i j : SheetId) (f g : Sheet → Sheet)

@[simp] theorem length_updateSheet : (s.updateSheet i f).sheets.length = s.sheets.length := by
  simp [updateSheet]

theorem sheet_updateSheet_self (h : i < s.sheets.length) :
    (s.updateSheet i f).sheet i = f (s.sheet i) := by
  simp [updateSheet, sheet, List.getD_eq_getElem?_getD, h]

theorem sheet_updateSheet_ne (h : i ≠ j) : (s.updateSheet i f).sheet j = s.sheet j := by
  simp [updateSheet, sheet, List.getD_eq_getElem?_getD, h]

theorem updateSheet_updateSheet :
    (s.updateSheet i f).updateSheet i g = s.updateSheet i (g ∘ f) := by
  simp [updateSheet, List.modify_modify_eq]

theorem getElem?_sheets (h : i < s.sheets.length) : s.sheets[i]? = some (s.sheet i) := by
  simp [sheet, List.getD_eq_getElem?_getD, h]

theorem updateSheet_of_eq (h : f (s.sheet i) = s.sheet i) : s.updateSheet i f = s := by
  have hs : s.sheets.modify i f = s.sheets := by
    apply List.ext_getElem?
    intro j
    rw [List.getElem?_modify]
    split
    · next he =>
      subst he
      rcases Nat.lt_or_ge i s.sheets.length with hi | hi
      · simp [s.getElem?_sheets i hi, h]
      · simp [hi]
    · simp
  rw [updateSheet, hs]

theorem sheet_eq_default (h : s.sheets.length ≤ i) : s.sheet i = {} := by
  simp [sheet, List.getD_eq_getElem?_getD, h]

theorem lt_of_output {text : String} (h : (s.sheet i).output = some text) :
    i < s.sheets.length := by
  rcases Nat.lt_or_ge i s.sheets.length with hi | hi
  · exact hi
  · simp [s.sheet_eq_default i hi] at h

def answer? : Option (Except Fault String) :=
  match s.sheets[i]? with
  | none => some (.error (.unboundName (Number.intText i)))
  | some S =>
    match S.output with
    | some text => some (.ok text)
    | none => if S.rendering then some (.error .rendering) else none

variable {s i}

theorem answer?_eq_none :
    s.answer? i = none ↔
      i < s.sheets.length ∧ (s.sheet i).output = none ∧ (s.sheet i).rendering = false := by
  rcases Nat.lt_or_ge i s.sheets.length with hi | hi
  · rw [answer?, s.getElem?_sheets i hi]
    rcases ho : (s.sheet i).output with _ | text
    · cases hr : (s.sheet i).rendering <;> simp [ho, hr, hi]
    · simp [ho]
  · simp [answer?, Nat.not_lt.2 hi]

theorem answer?_eq_ok {text : String} :
    s.answer? i = some (.ok text) ↔ (s.sheet i).output = some text := by
  rcases Nat.lt_or_ge i s.sheets.length with hi | hi
  · rw [answer?, s.getElem?_sheets i hi]
    rcases ho : (s.sheet i).output with _ | text'
    · cases hr : (s.sheet i).rendering <;> simp [ho, hr]
    · simp [ho]
  · simp [answer?, hi, s.sheet_eq_default i hi]

end Studio

namespace Build

variable {α β : Type} {s t : Studio} {m : Build α} {f : α → Build β}

def on (m : Build α) (s : Studio) : Except Fault α × Studio := m.run.run s

theorem ext_on {m m' : Build α} (h : ∀ s, m.on s = m'.on s) : m = m' := funext h

@[simp] theorem on_pure (a : α) (s : Studio) : (pure a : Build α).on s = (.ok a, s) := rfl

@[simp] theorem on_throw (e : Fault) (s : Studio) : (throw e : Build α).on s = (.error e, s) := rfl

@[simp] theorem on_get (s : Studio) : (get : Build Studio).on s = (.ok s, s) := rfl

theorem on_bind (m : Build α) (f : α → Build β) (s : Studio) :
    (m >>= f).on s = match m.on s with
      | (.ok a, t) => (f a).on t
      | (.error e, t) => (.error e, t) := by
  simp only [on, ExceptT.run_bind, StateT.run_bind]
  rcases m.run.run s with ⟨_ | _, _⟩ <;> rfl

theorem on_bind_ok {a : α} (h : m.on s = (.ok a, t)) : (m >>= f).on s = (f a).on t := by
  rw [on_bind, h]

theorem on_bind_error {e : Fault} (h : m.on s = (.error e, t)) :
    (m >>= f).on s = (.error e, t) := by
  rw [on_bind, h]

theorem of_bind_ok {b : β} (h : (m >>= f).on s = (.ok b, t)) :
    ∃ a u, m.on s = (.ok a, u) ∧ (f a).on u = (.ok b, t) := by
  rw [on_bind] at h
  rcases hm : m.on s with ⟨_ | a, u⟩
  · simp [hm] at h
  · exact ⟨a, u, rfl, by simpa [hm] using h⟩

def Keeps (R : Studio → Studio → Prop) (m : Build α) : Prop := ∀ s : Studio, R s (m.on s).2

theorem Keeps.of_on {R : Studio → Studio → Prop} {r : Except Fault α} (hm : m.Keeps R)
    (h : m.on s = (r, t)) : R s t := by
  have hs := hm s
  rwa [h] at hs

theorem Keeps.bind {R : Studio → Studio → Prop} (htrans : ∀ {s t u}, R s t → R t u → R s u)
    (hm : m.Keeps R) (hf : ∀ a, (f a).Keeps R) : (m >>= f).Keeps R := by
  intro s
  rcases h : m.on s with ⟨e | a, t⟩
  · rw [on_bind_error h]
    exact hm.of_on h
  · rw [on_bind_ok h]
    exact htrans (hm.of_on h) (hf a t)

@[simp] theorem on_ofExcept (r : Except Fault α) (s : Studio) : (ofExcept r).on s = (r, s) := by
  cases r <;> rfl

@[simp] theorem on_sheet (id : SheetId) (s : Studio) :
    (Build.sheet id).on s = (.ok (s.sheet id), s) := rfl

@[simp] theorem on_updateSheet (id : SheetId) (f : Sheet → Sheet) (s : Studio) :
    (Build.updateSheet id f).on s = (.ok (), s.updateSheet id f) := rfl

@[simp] theorem on_log (logger message : String) (s : Studio) :
    (log logger message).on s =
      (.ok (), s.record (.plain ("py2sass." ++ logger) Log.debug message)) := rfl

theorem on_shown {v : Value} (h : v.isWritable = true) (s : Studio) :
    (Build.shown v).on s = (.ok (s.shown v), s) := by
  rw [Build.shown, if_pos h]
  rfl

theorem isWritable_of_shown {v : Value} {s t : Studio} {shown : String}
    (h : (Build.shown v).on s = (.ok shown, t)) : v.isWritable = true := by
  cases hv : v.isWritable
  · rw [Build.shown, hv] at h
    cases h
  · rfl

@[simp] theorem on_outcome (m : Build α) (s : Studio) :
    (outcome m).on s = (.ok (m.on s).1, (m.on s).2) := rfl

theorem on_andThenAlways (m : Build α) (after : Studio → Studio) (s : Studio) :
    (andThenAlways m after).on s = ((m.on s).1, after (m.on s).2) := rfl

theorem on_ifItFails_ok {a : α} (h : m.on s = (.ok a, t)) (after : Studio → Studio) :
    (ifItFails m after).on s = (.ok a, t) := by
  rw [on] at h
  simp only [on, ifItFails, ExceptT.run_mk, StateT.run_bind, h]
  rfl

theorem on_ifItFails_error {e : Fault} (h : m.on s = (.error e, t)) (after : Studio → Studio) :
    (ifItFails m after).on s = (.error e, after t) := by
  rw [on] at h
  simp only [on, ifItFails, ExceptT.run_mk, StateT.run_bind, h]
  rfl

end Build

namespace Builder

open Build

variable {activate : Body → Value → Build Unit} {id : SheetId} {s t : Studio} {e : Fault}

theorem on_checkWritable (ho : (s.sheet id).output = none) :
    (checkWritable id).on s = (.ok (), s) := by
  simp [checkWritable, on_bind, Sheet.isFinished, ho]

theorem on_checkWritable_finished {T : String} (ho : (s.sheet id).output = some T) :
    (checkWritable id).on s = (.error .finished, s) := by
  simp [checkWritable, on_bind, Sheet.isFinished, ho]

theorem on_write (chunkAt : Int → Chunk) (ho : (s.sheet id).output = none) :
    (write id chunkAt).on s = (.ok (), s.updateSheet id (·.write chunkAt)) := by
  rw [write, on_bind_ok (on_checkWritable ho), on_updateSheet]

theorem on_write_finished {T : String} (chunkAt : Int → Chunk)
    (ho : (s.sheet id).output = some T) : (write id chunkAt).on s = (.error .finished, s) := by
  rw [write, on_bind_error (on_checkWritable_finished ho)]

/-- A studio in which a block of a sheet has just been opened. -/
def opened (id : SheetId) (heading : String) (s : Studio) : Studio :=
  s.updateSheet id fun S ↦ (S.write (.opening · heading)).deepen

section

variable {heading : String} {inside : Build Unit}

theorem length_opened : (opened id heading s).sheets.length = s.sheets.length :=
  s.length_updateSheet id _

theorem sheet_opened (hid : id < s.sheets.length) :
    (opened id heading s).sheet id = ((s.sheet id).write (.opening · heading)).deepen :=
  s.sheet_updateSheet_self id _ hid

theorem on_block_finished {T : String} (ho : (s.sheet id).output = some T) :
    (block id heading inside).on s = (.error .finished, s) := by
  rw [block, on_bind_error (on_write_finished _ ho)]

theorem on_block_error (ho : (s.sheet id).output = none)
    (h : inside.on (opened id heading s) = (.error e, t)) :
    (block id heading inside).on s = (.error e, t.updateSheet id Sheet.rise) := by
  have hd := s.updateSheet_updateSheet id (·.write (.opening · heading)) Sheet.deepen
  rw [block, on_bind_ok (on_write _ ho), on_bind_ok (on_updateSheet _ _ _), hd]
  change inside.on (s.updateSheet id (Sheet.deepen ∘ _)) = _ at h
  exact on_bind_error (by rw [on_andThenAlways, h])

theorem on_block_ok (ho : (s.sheet id).output = none)
    (h : inside.on (opened id heading s) = (.ok (), t)) :
    (block id heading inside).on s = (write id .closing).on (t.updateSheet id Sheet.rise) := by
  have hd := s.updateSheet_updateSheet id (·.write (.opening · heading)) Sheet.deepen
  rw [block, on_bind_ok (on_write _ ho), on_bind_ok (on_updateSheet _ _ _), hd]
  change inside.on (s.updateSheet id (Sheet.deepen ∘ _)) = _ at h
  exact on_bind_ok (by rw [on_andThenAlways, h])

end

theorem on_text_atom {a : Atom} (h : a.isWritable = true) (s : Studio) :
    (text activate (.atom a)).on s = (.ok a.plain, s) := by
  rw [text, if_pos h]
  rfl

theorem of_text_atom {a : Atom} {shown : String}
    (h : (text activate (.atom a)).on s = (.ok shown, t)) : a.isWritable = true ∧ a.plain = shown := by
  by_cases ha : a.isWritable = true
  · rw [on_text_atom ha] at h
    cases h
    exact ⟨ha, rfl⟩
  · rw [text, if_neg ha] at h
    cases h

/-- A studio in which the body of a sheet is about to be run for its text. -/
def started (id : SheetId) (s : Studio) : Studio := s.updateSheet id Sheet.start

def rendered (id : SheetId) (s : Studio) : Studio :=
  let t := s.updateSheet id Sheet.finish
  t.record (.plain "py2sass.renderer" Log.debug (renderedMessage (t.sheet id)))

theorem rendered_sheet (hid : id < t.sheets.length) :
    (rendered id t).sheet id = (t.sheet id).finish :=
  t.sheet_updateSheet_self id Sheet.finish hid

section

variable (activate)

def pass (id : SheetId) : Build String := do
  Build.updateSheet id Sheet.start
  Build.ifItFails (runSheetBody activate id) fun s ↦ s.updateSheet id Sheet.abandon
  Build.updateSheet id Sheet.finish
  let sheet ← Build.sheet id
  Build.log "renderer" (renderedMessage sheet)
  return sheet.output.getD ""

/-- A sheet that is asked for its text gives an answer at once, or else its body is run. -/
theorem on_render (id : SheetId) (s : Studio) :
    (render activate id).on s = match s.answer? id with
      | some r => (r, s)
      | none => (pass activate id).on s := by
  rcases Nat.lt_or_ge id s.sheets.length with hid | hid
  · rw [Studio.answer?, render, on_bind_ok (on_get s), s.getElem?_sheets id hid]
    rcases ho : (s.sheet id).output with _ | text
    · cases hr : (s.sheet id).rendering
      · simp only [ho, hr, Bool.false_eq_true, if_false]
        rfl
      · simp only [ho, hr, if_true]
        rfl
    · simp only [ho]
      rfl
  · simp [render, Studio.answer?, on_bind, List.getElem?_eq_none hid]

theorem on_render_finished {T : String} (ho : (s.sheet id).output = some T) :
    (render activate id).on s = (.ok T, s) := by
  rw [on_render, Studio.answer?_eq_ok.2 ho]

end

theorem on_pass_error (h : (runSheetBody activate id).on (started id s) = (.error e, t)) :
    (pass activate id).on s = (.error e, t.updateSheet id Sheet.abandon) := by
  rw [started] at h
  rw [pass, on_bind_ok (on_updateSheet _ _ _), on_bind_error (on_ifItFails_error h _)]

theorem on_pass_ok (h : (runSheetBody activate id).on (started id s) = (.ok (), t)) :
    (pass activate id).on s = (.ok (((rendered id t).sheet id).output.getD ""), rendered id t) := by
  rw [started] at h
  rw [pass, on_bind_ok (on_updateSheet _ _ _), on_bind_ok (on_ifItFails_ok h _),
    on_bind_ok (on_updateSheet _ _ _), on_bind_ok (on_sheet _ _), on_bind_ok (on_log _ _ _)]
  rfl

theorem on_render_error (hid : id < s.sheets.length) (ho : (s.sheet id).output = none)
    (hr : (s.sheet id).rendering = false)
    (h : (runSheetBody activate id).on (started id s) = (.error e, t)) :
    (render activate id).on s = (.error e, t.updateSheet id Sheet.abandon) := by
  rw [on_render, Studio.answer?_eq_none.2 ⟨hid, ho, hr⟩]
  exact on_pass_error h

theorem on_render_ok (hid : id < s.sheets.length) (ho : (s.sheet id).output = none)
    (hr : (s.sheet id).rendering = false) (ht : id < t.sheets.length)
    (h : (runSheetBody activate id).on (started id s) = (.ok (), t)) :
    (render activate id).on s = (.ok (t.sheet id).document, rendered id t) := by
  rw [on_render, Studio.answer?_eq_none.2 ⟨hid, ho, hr⟩]
  refine (on_pass_ok h).trans ?_
  rw [rendered_sheet ht]
  rfl

end Builder

end Stylesheet
