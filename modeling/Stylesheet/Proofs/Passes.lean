import Stylesheet.Proofs.Bracketing
import Stylesheet.Proofs.Composition

namespace Stylesheet

namespace Studio

variable {s : Studio} {id j : SheetId} {c : Option Body}

theorem updateSheet_withBody {f : Sheet → Sheet}
    (hf : ∀ S, f { S with body := c } = { f S with body := c }) :
    (s.withBody id c).updateSheet j f = (s.updateSheet j f).withBody id c := by
  by_cases h : id = j
  · subst h
    have hc : f ∘ (fun S ↦ { S with body := c }) = (fun S ↦ { S with body := c }) ∘ f := funext hf
    rw [withBody, withBody, updateSheet_updateSheet, updateSheet_updateSheet, hc]
  · simp only [withBody, updateSheet, List.modify_modify_ne _ _ _ h]

theorem isBuilding_withBody :
    ((s.withBody id c).sheet j).IsBuilding ↔ (s.sheet j).IsBuilding := by
  obtain ⟨b, hb⟩ := s.sheet_withBody id c j
  rw [hb]
  exact ⟨fun h ↦ ⟨h.output, h.rendering⟩, fun h ↦ ⟨h.output, h.rendering⟩⟩

theorem answer?_withBody : (s.withBody id c).answer? j = s.answer? j := by
  have hs : (s.withBody id c).sheets[j]? =
      (fun S ↦ if id = j then { S with body := c } else S) <$> s.sheets[j]? := by
    rw [withBody, updateSheet, List.getElem?_modify]
  rw [answer?, answer?, hs]
  rcases s.sheets[j]? with _ | S
  · rfl
  · by_cases h : id = j <;> simp [h]

theorem answer?_isBuilding (hb : (s.sheet id).IsBuilding) :
    s.answer? id = some (.error .rendering) := by
  rw [answer?, s.getElem?_sheets id (lt_of_isBuilding hb)]
  simp [hb.output, hb.rendering]

end Studio

namespace Build

variable {α β : Type}

theorem andThenAlways_eq (m : Build α) (after : Studio → Studio) :
    andThenAlways m after = (do
      let r ← outcome m
      modify after
      ofExcept r) := by
  refine ext_on fun s ↦ ?_
  rw [on_andThenAlways, on_bind_ok (on_outcome m s)]
  rcases m.on s with ⟨e | a, t⟩ <;> rfl

theorem ifItFails_eq (m : Build α) (after : Studio → Studio) :
    ifItFails m after = (do
      match ← outcome m with
      | .ok a => pure a
      | .error e => do
        modify after
        throw e) := by
  refine ext_on fun s ↦ ?_
  rw [on_bind_ok (on_outcome m s)]
  rcases h : m.on s with ⟨e | a, t⟩
  · exact on_ifItFails_error h after
  · exact on_ifItFails_ok h after

/-- In a studio where a sheet is building, `m'` does to the same studio with another body for the sheet
what `m` does; and the sheet goes on building. -/
structure Mirrors (id : SheetId) (c : Option Body) (m m' : Build α) : Prop where
  keeps : ∀ s : Studio, (s.sheet id).IsBuilding → ((m.on s).2.sheet id).IsBuilding
  same : ∀ s : Studio, (s.sheet id).IsBuilding →
    m'.on (s.withBody id c) = ((m.on s).1, (m.on s).2.withBody id c)

variable {id j : SheetId} {c : Option Body} {m m' : Build α} {f f' : α → Build β}

theorem IsQuiet.mirrors (hm : m.IsQuiet) : Mirrors id c m m where
  keeps s hb := by
    have hp : s.sheets <+: (m.on s).2.sheets := hm.sheets rfl
    rwa [Studio.sheet_of_prefix hp (Studio.lt_of_isBuilding hb)]
  same s hb := hm.isBlind s id c (Studio.lt_of_isBuilding hb)

theorem Mirrors.bind (hm : Mirrors id c m m') (hf : ∀ a, Mirrors id c (f a) (f' a)) :
    Mirrors id c (m >>= f) (m' >>= f') := by
  have hboth (s : Studio) (hb : (s.sheet id).IsBuilding) :
      (((m >>= f).on s).2.sheet id).IsBuilding ∧
        (m' >>= f').on (s.withBody id c) =
          (((m >>= f).on s).1, ((m >>= f).on s).2.withBody id c) := by
    have hk := hm.keeps s hb
    have hs := hm.same s hb
    rcases h : m.on s with ⟨e | a, t⟩ <;> rw [h] at hk hs
    · rw [on_bind_error h, on_bind_error hs]
      exact ⟨hk, rfl⟩
    · rw [on_bind_ok h, on_bind_ok hs]
      exact ⟨(hf a).keeps t hk, (hf a).same t hk⟩
  exact ⟨fun s hb ↦ (hboth s hb).1, fun s hb ↦ (hboth s hb).2⟩

theorem Mirrors.outcome (hm : Mirrors id c m m') : Mirrors id c (outcome m) (outcome m') where
  keeps := hm.keeps
  same s hb := by rw [on_outcome, on_outcome, hm.same s hb]

theorem Mirrors.updateSheet {g : Sheet → Sheet}
    (hc : ∀ S, g { S with body := c } = { g S with body := c })
    (hg : id = j → ∀ S : Sheet, S.IsBuilding → (g S).IsBuilding) :
    Mirrors id c (updateSheet j g) (updateSheet j g) where
  keeps s hb := by
    rw [on_updateSheet]
    by_cases h : id = j
    · rw [← h, s.sheet_updateSheet_self id g (Studio.lt_of_isBuilding hb)]
      exact hg h _ hb
    · rwa [s.sheet_updateSheet_ne j id g (Ne.symm h)]
  same s _ := by rw [on_updateSheet, on_updateSheet, Studio.updateSheet_withBody hc]

theorem Mirrors.change {g : Sheet → Sheet} (hc : ∀ S, g { S with body := c } = { g S with body := c })
    (ho : ∀ S, (g S).output = S.output) (hr : ∀ S, (g S).rendering = S.rendering) :
    Mirrors id c (Build.updateSheet j g) (Build.updateSheet j g) :=
  .updateSheet hc fun _ S hb ↦ ⟨(ho S).trans hb.output, (hr S).trans hb.rendering⟩

theorem Mirrors.andThenAlways {g : Sheet → Sheet} (hm : Mirrors id c m m')
    (hg : Mirrors id c (Build.updateSheet j g) (Build.updateSheet j g)) :
    Mirrors id c (andThenAlways m (·.updateSheet j g)) (andThenAlways m' (·.updateSheet j g)) := by
  rw [andThenAlways_eq, andThenAlways_eq]
  exact .bind hm.outcome fun r ↦ .bind hg fun _ ↦ (IsQuiet.ofExcept r).mirrors

theorem Mirrors.ifItFails {g : Sheet → Sheet} (hm : Mirrors id c m m')
    (hg : Mirrors id c (Build.updateSheet j g) (Build.updateSheet j g)) :
    Mirrors id c (ifItFails m (·.updateSheet j g)) (ifItFails m' (·.updateSheet j g)) := by
  rw [ifItFails_eq, ifItFails_eq]
  refine .bind hm.outcome fun r ↦ ?_
  cases r with
  | ok a => exact (IsQuiet.pure a).mirrors
  | error e => exact .bind hg fun _ ↦ (IsQuiet.throw e).mirrors

theorem Mirrors.sheet_bind {f f' : Sheet → Build β} (h : id ≠ j)
    (hf : ∀ S, Mirrors id c (f S) (f' S)) :
    Mirrors id c (Build.sheet j >>= f) (Build.sheet j >>= f') where
  keeps s hb := (hf _).keeps s hb
  same s hb := by
    rw [on_bind_ok (on_sheet _ _), on_bind_ok (on_sheet _ _), Studio.sheet_withBody_ne h]
    exact (hf _).same s hb

end Build

namespace Builder

open Build

variable {id : SheetId} {c : Option Body} {activate activate' : Activation}

theorem checkWritable_mirrors (j : SheetId) :
    Mirrors id c (checkWritable j) (checkWritable j) := by
  have hs (s : Studio) : (checkWritable j).on s =
      (if (s.sheet j).isFinished then .error .finished else .ok (), s) := by
    rw [checkWritable, on_bind_ok (on_sheet j s)]
    split <;> rfl
  refine ⟨fun s hb ↦ by rwa [hs], fun s _ ↦ ?_⟩
  obtain ⟨b, hb⟩ := s.sheet_withBody id c j
  rw [hs, hs, hb]
  rfl

theorem write_mirrors (j : SheetId) (chunkAt : Int → Chunk) :
    Mirrors id c (write j chunkAt) (write j chunkAt) :=
  .bind (checkWritable_mirrors j) fun _ ↦ .change (fun _ ↦ rfl) (fun _ ↦ rfl) fun _ ↦ rfl

theorem block_mirrors (j : SheetId) (heading : String) {inside inside' : Build Unit}
    (hi : Mirrors id c inside inside') :
    Mirrors id c (block j heading inside) (block j heading inside') := by
  refine .bind (write_mirrors j _) fun _ ↦ .bind ?_ fun _ ↦ .bind (.andThenAlways hi ?_) fun _ ↦
    write_mirrors j _
  · exact .change (fun _ ↦ rfl) (fun _ ↦ rfl) fun _ ↦ rfl
  · exact .change (fun _ ↦ rfl) (fun _ ↦ rfl) fun _ ↦ rfl

section

variable (ha : ∀ b v, Mirrors id c (activate b v) (activate' b v))

include ha

/-- Another sheet's pass; that of `id` is under way already. -/
theorem pass_mirrors {j : SheetId} (h : id ≠ j) :
    Mirrors id c (pass activate j) (pass activate' j) := by
  have hne {g : Sheet → Sheet} (hg : ∀ S, g { S with body := c } = { g S with body := c }) :
      Mirrors id c (Build.updateSheet j g) (Build.updateSheet j g) :=
    .updateSheet hg fun he ↦ absurd he h
  refine .bind (hne fun _ ↦ rfl) fun _ ↦ .bind (.ifItFails ?_ (hne fun _ ↦ rfl)) fun _ ↦
    .bind (hne fun _ ↦ rfl) fun _ ↦ .sheet_bind h fun _ ↦
      .bind (IsQuiet.log _ _).mirrors fun _ ↦ (IsQuiet.pure _).mirrors
  refine .sheet_bind h fun S ↦ ?_
  cases S.body with
  | none => exact (IsQuiet.pure ()).mirrors
  | some b => exact ha b _

theorem render_mirrors (j : SheetId) : Mirrors id c (render activate j) (render activate' j) := by
  have hboth (s : Studio) (hb : (s.sheet id).IsBuilding) :
      (((render activate j).on s).2.sheet id).IsBuilding ∧
        (render activate' j).on (s.withBody id c) =
          (((render activate j).on s).1, ((render activate j).on s).2.withBody id c) := by
    rw [on_render, on_render, Studio.answer?_withBody]
    cases hr : s.answer? j with
    | some r => exact ⟨hb, rfl⟩
    | none =>
      have hne : id ≠ j := by
        rintro rfl
        simp [Studio.answer?_isBuilding hb] at hr
      exact ⟨(pass_mirrors ha hne).keeps s hb, (pass_mirrors ha hne).same s hb⟩
  exact ⟨fun s hb ↦ (hboth s hb).1, fun s hb ↦ (hboth s hb).2⟩

theorem text_mirrors (v : Value) : Mirrors id c (text activate v) (text activate' v) := by
  cases v with
  | sheet j => exact render_mirrors ha j
  | atom a => exact (IsQuiet.ite (.pure _) (.throw _)).mirrors
  | _ => exact (shown_isQuiet _).mirrors

theorem Inside.mirrors {j : SheetId} {inside : Activation → Build Unit} (hi : Inside j inside) :
    Mirrors id c (inside activate) (inside activate') := by
  cases hi with
  | quiet hm => exact hm.mirrors
  | body b => exact ha b _
  | context b => exact .bind (IsQuiet.newContext j).mirrors fun v ↦ ha b v

theorem Composed.mirrors {α : Type} {m : Activation → Build α} (hm : Composed True m) :
    Mirrors id c (m activate) (m activate') := by
  induction hm with
  | quiet hm => exact hm.mirrors
  | bind _ _ ihm ihf => exact .bind ihm ihf
  | outcome _ ih => exact ih.outcome
  | line j words => exact write_mirrors j _
  | assign j name value =>
    refine .bind (text_mirrors ha name) fun _ ↦ .bind (text_mirrors ha value) fun _ ↦
      .bind (write_mirrors j _) fun _ ↦ .bind (text_mirrors ha name) fun _ ↦
        .bind ?_ fun _ ↦ (IsQuiet.pure _).mirrors
    exact .change (fun _ ↦ rfl) (fun _ ↦ rfl) fun _ ↦ rfl
  | raw j chunk =>
    refine .bind (checkWritable_mirrors j) fun _ ↦ .bind (text_mirrors ha chunk) fun _ ↦
      .bind ?_ fun _ ↦ (IsQuiet.pure _).mirrors
    exact .change (fun _ ↦ rfl) (fun _ ↦ rfl) fun _ ↦ rfl
  | block j heading hi => exact block_mirrors j heading (hi.mirrors ha)
  | render j => exact render_mirrors ha j

end

/-- A check that lets a studio pass as long as the sheet is building. -/
def Allows (id : SheetId) (check : Build Unit) : Prop :=
  ∀ t : Studio, (t.sheet id).IsBuilding → check.on t = (.ok (), t)

section

variable (check : Build Unit)

mutual

/-- Runs a step as `runStep` does, with a check before every step inside it. -/
def watchStep (activate : Activation) (argument : Value) : Step → Build Unit
  | .attempt steps => do
    match ← Build.outcome (watchSteps activate argument steps) with
    | .ok () => note (.returned .none)
    | .error e => note (.caught e)
  | step => runStep activate argument step

def watchSteps (activate : Activation) (argument : Value) : List Step → Build Unit
  | [] => check
  | step :: rest => do
    check
    watchStep activate argument step
    watchSteps activate argument rest

end

/-- Runs a body as `runBodyWithin` does, with a check before every step, in bodies inside it too. -/
def watchBodyWithin : Nat → Activation
  | 0, _, _ => throw .tooDeep
  | limit + 1, b, argument => watchSteps check (watchBodyWithin limit) argument b.steps

variable {check}

theorem Allows.mirrors (h : Allows id check) : Mirrors id c (pure ()) check where
  keeps _ hb := hb
  same _ hb := h _ (Studio.isBuilding_withBody.2 hb)

mutual

theorem watchStep_mirrors (hc : Allows id check)
    (ha : ∀ b v, Mirrors id c (activate b v) (activate' b v)) (argument : Value) :
    (step : Step) →
    Mirrors id c (runStep activate argument step) (watchStep check activate' argument step)
  | .attempt steps => .bind (watchSteps_mirrors hc ha argument steps).outcome fun r ↦ by
      cases r with
      | ok u => exact (note_isQuiet _).mirrors
      | error e => exact (note_isQuiet _).mirrors
  | .call .. | .get .. | .has .. | .text .. | .shown .. | .bind .. | .fail .. | .misuse ..
  | .css .. => (runStep_composed argument _).mirrors ha

theorem watchSteps_mirrors (hc : Allows id check)
    (ha : ∀ b v, Mirrors id c (activate b v) (activate' b v)) (argument : Value) :
    (steps : List Step) →
    Mirrors id c (runSteps activate argument steps) (watchSteps check activate' argument steps)
  | [] => hc.mirrors
  | step :: rest =>
    have hrest := Mirrors.bind (watchStep_mirrors hc ha argument step) fun _ ↦
      watchSteps_mirrors hc ha argument rest
    have hall := Mirrors.bind hc.mirrors fun _ ↦ hrest
    hall

end

/-- Whatever bodies do while a sheet is building, it is so at every step that they run, and what they
do does not depend on the sheet's own body. -/
theorem watchBodyWithin_mirrors (hc : Allows id check) (limit : Nat) (b : Body) (v : Value) :
    Mirrors id c (runBodyWithin limit b v) (watchBodyWithin check limit b v) := by
  induction limit generalizing b v with
  | zero => exact (IsQuiet.throw _).mirrors
  | succ limit ih => exact watchSteps_mirrors hc ih v b.steps

end

end Builder

end Stylesheet
