import Stylesheet.Proofs.Finished
import Stylesheet.Proofs.Passes

namespace Stylesheet

open Build

namespace Build

variable {α β : Type} {m : Build α} {f : α → Build β}

def KeepsMarks (m : Build α) : Prop :=
  ∀ (s : Studio) (j : SheetId), ((m.on s).2.sheet j).rendering = (s.sheet j).rendering

theorem IsQuiet.keepsMarks (hm : m.IsQuiet) : m.KeepsMarks := by
  intro s j
  obtain ⟨bodies, hs⟩ := hm.makes s
  rcases Nat.lt_or_ge j s.sheets.length with hj | hj
  · rw [Studio.sheet_of_prefix ⟨_, hs.symm⟩ hj]
  · rw [s.sheet_eq_default j hj, Studio.sheet, hs, List.getD_eq_getElem?_getD,
      List.getElem?_append_right hj, List.getElem?_map]
    rcases bodies[j - s.sheets.length]? with _ | b <;> rfl

theorem KeepsMarks.bind (hm : m.KeepsMarks) (hf : ∀ a, (f a).KeepsMarks) :
    (m >>= f).KeepsMarks :=
  Keeps.bind (R := fun s t ↦ ∀ j, (t.sheet j).rendering = (s.sheet j).rendering)
    (fun h h' j ↦ (h' j).trans (h j)) hm hf

theorem KeepsMarks.outcome (hm : m.KeepsMarks) : (outcome m).KeepsMarks := hm

theorem rendering_updateSheet {s : Studio} {id j : SheetId} {g : Sheet → Sheet}
    (hg : id = j → (g (s.sheet j)).rendering = (s.sheet j).rendering) :
    ((s.updateSheet id g).sheet j).rendering = (s.sheet j).rendering := by
  by_cases h : id = j
  · subst h
    rcases Nat.lt_or_ge id s.sheets.length with hid | hid
    · rw [s.sheet_updateSheet_self id g hid, hg rfl]
    · rw [s.sheet_eq_default id hid, Studio.sheet_eq_default _ _ (by simpa using hid)]
  · rw [s.sheet_updateSheet_ne id j g h]

theorem KeepsMarks.updateSheet (id : SheetId) {g : Sheet → Sheet}
    (hg : ∀ S, (g S).rendering = S.rendering) : (updateSheet id g).KeepsMarks := by
  intro s j
  rw [on_updateSheet]
  exact rendering_updateSheet fun _ ↦ hg _

end Build

namespace Builder

theorem checkWritable_keepsMarks (id : SheetId) : (checkWritable id).KeepsMarks := by
  intro s j
  rcases ho : (s.sheet id).output with _ | T
  · rw [on_checkWritable ho]
  · rw [on_checkWritable_finished ho]

theorem write_keepsMarks (id : SheetId) (chunkAt : Int → Chunk) : (write id chunkAt).KeepsMarks :=
  .bind (checkWritable_keepsMarks id) fun _ ↦ .updateSheet id fun _ ↦ rfl

theorem block_keepsMarks (id : SheetId) (heading : String) {inside : Build Unit}
    (hi : inside.KeepsMarks) : (block id heading inside).KeepsMarks := by
  refine .bind (write_keepsMarks id _) fun _ ↦ .bind (.updateSheet id fun _ ↦ rfl) fun _ ↦
    .bind ?_ fun _ ↦ write_keepsMarks id _
  rw [andThenAlways_eq]
  exact .bind hi.outcome fun r ↦ .bind (.updateSheet id fun _ ↦ rfl) fun _ ↦
    (IsQuiet.ofExcept r).keepsMarks

section

variable {activate : Activation} (ha : ∀ b v, (activate b v).KeepsMarks)

include ha

theorem runSheetBody_keepsMarks (id : SheetId) : (runSheetBody activate id).KeepsMarks := by
  intro s j
  rw [runSheetBody, on_bind_ok (on_sheet id s)]
  rcases (s.sheet id).body with _ | b
  · rfl
  · exact ha b _ s j

theorem pass_keepsMarks {s : Studio} {id : SheetId} (hr : (s.sheet id).rendering = false)
    (j : SheetId) :
    (((pass activate id).on s).2.sheet j).rendering = (s.sheet j).rendering := by
  -- the pass ends on the sheet as it began: with the mark off, which is how the sheet was found
  have hend {g : Sheet → Sheet} (t : Studio)
      (ht : (t.sheet j).rendering = ((started id s).sheet j).rendering)
      (hg : ∀ S, (g S).rendering = false) :
      ((t.updateSheet id g).sheet j).rendering = (s.sheet j).rendering := by
    by_cases h : id = j
    · subst h
      rw [hr]
      rcases Nat.lt_or_ge id t.sheets.length with hid | hid
      · rw [t.sheet_updateSheet_self id g hid, hg]
      · rw [Studio.sheet_eq_default _ _ (by simpa using hid)]
    · rw [t.sheet_updateSheet_ne id j g h, ht, started, s.sheet_updateSheet_ne id j _ h]
  have hk := runSheetBody_keepsMarks ha id (started id s) j
  rcases h : (runSheetBody activate id).on (started id s) with ⟨e | _, t⟩ <;> rw [h] at hk
  · rw [on_pass_error h]
    exact hend t hk fun _ ↦ rfl
  · rw [on_pass_ok h]
    exact hend t hk fun _ ↦ rfl

theorem render_keepsMarks (id : SheetId) : (render activate id).KeepsMarks := by
  intro s j
  rw [on_render]
  cases h : s.answer? id with
  | some r => rfl
  | none =>
    obtain ⟨-, -, hr⟩ := Studio.answer?_eq_none.1 h
    exact pass_keepsMarks ha hr j

theorem text_keepsMarks (v : Value) : (text activate v).KeepsMarks := by
  cases v with
  | sheet id => exact render_keepsMarks ha id
  | _ => exact IsQuiet.keepsMarks (text_isQuiet nofun)

theorem Inside.keepsMarks {id : SheetId} {inside : Activation → Build Unit}
    (hi : Inside id inside) : (inside activate).KeepsMarks := by
  cases hi with
  | quiet hm => exact hm.keepsMarks
  | body b => exact ha b _
  | context b => exact .bind (IsQuiet.newContext id).keepsMarks fun v ↦ ha b v

theorem Composed.keepsMarks {α : Type} {m : Activation → Build α} (hm : Composed True m) :
    (m activate).KeepsMarks := by
  induction hm with
  | quiet hm => exact hm.keepsMarks
  | bind _ _ ihm ihf => exact .bind ihm ihf
  | outcome _ ih => exact ih.outcome
  | line id words => exact write_keepsMarks id _
  | assign id name value =>
    exact .bind (text_keepsMarks ha name) fun _ ↦ .bind (text_keepsMarks ha value) fun _ ↦
      .bind (write_keepsMarks id _) fun _ ↦ .bind (text_keepsMarks ha name) fun _ ↦
        .bind (.updateSheet id fun _ ↦ rfl) fun _ ↦ (IsQuiet.pure _).keepsMarks
  | raw id chunk =>
    exact .bind (checkWritable_keepsMarks id) fun _ ↦ .bind (text_keepsMarks ha chunk) fun _ ↦
      .bind (.updateSheet id fun _ ↦ rfl) fun _ ↦ (IsQuiet.pure _).keepsMarks
  | block id heading hi => exact block_keepsMarks id heading (hi.keepsMarks ha)
  | render id => exact render_keepsMarks ha id

end

theorem runBodyWithin_keepsMarks (limit : Nat) (b : Body) (v : Value) :
    (runBodyWithin limit b v).KeepsMarks := by
  induction limit generalizing b v with
  | zero => exact fun _ _ ↦ rfl
  | succ limit ih => exact (runSteps_composed v b.steps).keepsMarks ih

theorem runEach_keepsMarks (limit : Nat) (steps : List Step) (s : Studio) (j : SheetId) :
    (((runEach limit steps).run s).2.sheet j).rendering = (s.sheet j).rendering := by
  induction steps generalizing s with
  | nil => rfl
  | cons step rest ih =>
    have hstep := (runStep_composed (.sheet Studio.rootSheet) step).keepsMarks
      (runBodyWithin_keepsMarks limit) s j
    exact (ih _).trans hstep

/-- Where the error of a writing call comes from: a text that it makes, or the body of its block. -/
inductive PassesOn (activate : Activation) (id : SheetId) (t : Studio) : Call → Fault → Prop
  | wording {c : Call} {e : Fault} : ((c.wording activate).on t).1 = .error e →
      PassesOn activate id t c e
  | raw {chunk : Value} {e : Fault} : ((text activate chunk).on t).1 = .error e →
      PassesOn activate id t (.raw chunk) e
  | body {h h' : Heading} {body body' : Value} {heading : String} {u : Studio} {e : Fault} :
      (h.worded activate body).on t = (.ok (heading, h', body'), u) →
      ((h'.runBody activate id body').on (opened id heading u)).1 = .error e →
      PassesOn activate id t (.block h body) e

theorem passesOn_of_error {activate : Activation} {id : SheetId} {t : Studio} {c : Call}
    {e : Fault} (ha : ∀ b v, (activate b v).IsOrderly) (hb : (t.sheet id).IsBuilding)
    (hw : c.writes = true) (h : ((perform activate id c).on t).1 = .error e) :
    PassesOn activate id t c e := by
  cases c with
  | line l =>
    rcases hl : (l.text activate).on t with ⟨e' | words, t₁⟩
    · rw [perform, on_bind_error hl] at h
      cases h
      exact .wording (by rw [Call.wording, on_bind_error hl])
    · obtain ⟨_, h₁⟩ := ((Line.text_isOrderly ha l).develops hl).extends hb
      rw [perform, on_bind_ok hl, writeLine, on_bind_ok (on_write _ h₁.building.output)] at h
      cases h
  | assign name value =>
    rcases hn : (text activate name).on t with ⟨e' | shown, t₁⟩
    · rw [perform, assign, bind_assoc, on_bind_error hn] at h
      cases h
      exact .wording (by rw [Call.wording, on_bind_error hn])
    obtain ⟨_, h₁⟩ := ((text_isOrderly ha name).develops hn).extends hb
    rcases hv : (text activate value).on t₁ with ⟨e' | shown', t₂⟩
    · rw [perform, assign, bind_assoc, on_bind_ok hn, bind_assoc, on_bind_error hv] at h
      cases h
      exact .wording (by rw [Call.wording, on_bind_ok hn, on_bind_error hv])
    obtain ⟨_, h₂⟩ := ((text_isOrderly ha value).develops hv).extends h₁.building
    obtain ⟨key, hk, -⟩ := on_assign ha hn hv h₂.building.output
    rw [perform, on_bind_ok hk] at h
    cases h
  | raw chunk =>
    rw [perform, on_bind_ok (on_checkWritable hb.output)] at h
    rcases hc : (text activate chunk).on t with ⟨e' | words, t₁⟩
    · rw [on_bind_error hc] at h
      cases h
      exact .raw (by rw [hc])
    · rw [on_bind_ok hc, on_bind_ok (on_updateSheet _ _ _)] at h
      cases h
  | block hd body =>
    rcases hh : (hd.worded activate body).on t with ⟨e' | ⟨heading, h', body'⟩, t₁⟩
    · rw [perform, headed, bind_assoc, on_bind_error hh] at h
      cases h
      exact .wording (by rw [Call.wording, on_bind_error hh])
    obtain ⟨_, h₁⟩ := ((Heading.worded_isOrderly ha hd body).develops hh).extends hb
    have hi := Heading.runBody_isOrderly ha h' id body'
    rw [on_perform_block hh, on_bind] at h
    refine .body hh ?_
    rcases hr : (h'.runBody activate id body').on (opened id heading t₁) with ⟨e' | _, t₂⟩
    · have hk := (block_fails hi h₁.building hr).1
      rcases hx : (block id heading (h'.runBody activate id body')).on t₁ with ⟨e'' | _, t₃⟩ <;>
        rw [hx] at h hk
      · cases h
        cases hk
        rfl
      · cases hk
    · rcases hx : (block id heading (h'.runBody activate id body')).on t₁ with ⟨e' | _, t₃⟩
      · have hk := (block_returns hi h₁.building hr).1
        simp [hx] at hk
      · rw [hx] at h
        cases h
  | text => simp [Call.writes] at hw
  | css => simp [Call.writes] at hw

theorem runSheetBody_mirrors {limit : Nat} {s : Studio} {id : SheetId} {check : Build Unit}
    {b : Body} (hid : id < s.sheets.length) (ho : (s.sheet id).output = none)
    (hb : (s.sheet id).body = some b) (hc : Allows id check) (other : Option Body) :
    (watchBodyWithin check limit b (.sheet id)).on ((started id s).withBody id other) =
      (((runSheetBody (runBodyWithin limit) id).on (started id s)).1,
        ((runSheetBody (runBodyWithin limit) id).on (started id s)).2.withBody id other) := by
  have hs : (started id s).sheet id = (s.sheet id).start := s.sheet_updateSheet_self id _ hid
  have hrun : (runSheetBody (runBodyWithin limit) id).on (started id s) =
      (runBodyWithin limit b (.sheet id)).on (started id s) := by
    rw [runSheetBody, on_bind_ok (on_sheet _ _), hs, Sheet.start, hb]
  rw [hrun]
  exact (watchBodyWithin_mirrors hc limit b (.sheet id)).same _ (by rw [hs]; exact ⟨ho, rfl⟩)

/-- Bodies may ask for the texts of all sheets, their own and each other's, and catch what fails.

A sheet that is building gives no text, whoever asks and however bodies are run, and is left as it is.
It takes all that is written: a call that writes on it only passes on an error of what it runs.

A sheet that is asked for its text answers at once, or a pass over its body is made. The sheet is
building at every step that is run in the pass, by whichever body, and the pass goes the same way if
the sheet has another body meanwhile: so its own body is not run again.

No call leaves another mark than it has found, whether it returns or fails. After a program no sheet is
building, those that the program has made included, and a sheet that has no text can be tried again. -/
theorem reentrancy_is_safe (limit : Nat) :
    (∀ (t : Studio) (id : SheetId), (t.sheet id).IsBuilding →
      (∀ activate, (render activate id).on t = (.error .rendering, t) ∧
        (text activate (.sheet id)).on t = (.error .rendering, t) ∧
        ∀ includes compress engine,
          (css activate id includes compress engine).on t = (.error .rendering, t)) ∧
      Fault.rendering.kind = "RuntimeError" ∧
      (checkWritable id).on t = (.ok (), t) ∧
      ∀ c e, c.writes = true → ((perform (runBodyWithin limit) id c).on t).1 = .error e →
        PassesOn (runBodyWithin limit) id t c e) ∧
    (∀ (s : Studio) (id : SheetId), (∃ r, ∀ activate, (render activate id).on s = (r, s)) ∨
      (∀ activate, (render activate id).on s = (pass activate id).on s) ∧
      ((started id s).sheet id).IsBuilding ∧
      ∀ b, (s.sheet id).body = some b → ∀ check, Allows id check → ∀ other,
        let r := (runSheetBody (runBodyWithin limit) id).on (started id s)
        (watchBodyWithin check limit b (.sheet id)).on ((started id s).withBody id other) =
          (r.1, r.2.withBody id other)) ∧
    (∀ (s : Studio) (argument : Value) (steps : List Step) (j : SheetId),
      (((runSteps (runBodyWithin limit) argument steps).on s).2.sheet j).rendering =
        (s.sheet j).rendering) ∧
    ∀ (s : Studio) (body : Option Body) (steps : List Step) (j : SheetId),
      let t := runProgram s body steps
      (t.sheet j).rendering = false ∧
        (j < t.sheets.length → (t.sheet j).output = none →
          ∀ activate, (render activate j).on t = (pass activate j).on t) := by
  refine ⟨fun t id hb ↦ ⟨fun activate ↦ ?_, rfl, on_checkWritable hb.output, fun c e hw he ↦
    passesOn_of_error (runBodyWithin_isOrderly limit) hb hw he⟩, fun s id ↦ ?_,
    fun s argument steps j ↦ (runSteps_composed argument steps).keepsMarks
      (runBodyWithin_keepsMarks limit) s j, fun s body steps j ↦ ?_⟩
  · have hr : (render activate id).on t = (.error .rendering, t) := by
      rw [on_render, Studio.answer?_isBuilding hb]
    refine ⟨hr, hr, fun includes compress engine ↦ ?_⟩
    rw [css, on_bind_error hr]
  · cases h : s.answer? id with
    | some r =>
      refine .inl ⟨r, fun activate ↦ ?_⟩
      rw [on_render, h]
    | none =>
      obtain ⟨hid, ho, -⟩ := Studio.answer?_eq_none.1 h
      refine .inr ⟨fun activate ↦ ?_, ?_, fun b hb check hc other ↦
        runSheetBody_mirrors hid ho hb hc other⟩
      · rw [on_render, h]
      · rw [started, s.sheet_updateSheet_self id _ hid]
        exact ⟨ho, rfl⟩
  · have hm : ((runProgram s body steps).sheet j).rendering = false := by
      rw [runProgram, runEach_keepsMarks]
      rcases j with _ | j <;> rfl
    refine ⟨hm, fun hj ho activate ↦ ?_⟩
    rw [on_render, Studio.answer?_eq_none.2 ⟨hj, ho, hm⟩]

/-- Two sheets whose bodies ask for each other's text; the second catches the error. -/
def cycle : Studio where
  sheets := [{ body := some ⟨none, [.call .argument "raw" [.name "b"] [] none]⟩ },
    { body := some ⟨none, [.attempt [.text .root], .call .argument "raw" [.atom (.text "x")] [] none]⟩ }]
  names := [("b", .sheet 1)]

/-- A check that fails as soon as a sheet is not building. -/
def requireBuilding (id : SheetId) : Build Unit := do
  let S ← Build.sheet id
  if S.output.isNone && S.rendering then pure () else throw .finished

theorem requireBuilding_allows (id : SheetId) : Allows id (requireBuilding id) := by
  intro t hb
  rw [requireBuilding, on_bind_ok (on_sheet id t)]
  simp [hb.output, hb.rendering]

/-- The first sheet refuses while its body waits for the second, and gets that one's text. It passes on
its own refusal, and passes the check at every step of its pass. -/
theorem cycle_is_safe :
    ((started 0 cycle).sheet 0).IsBuilding ∧
    (render (runBodyWithin 2) 0).on (started 0 cycle) = (.error .rendering, started 0 cycle) ∧
    PassesOn (runBodyWithin 2) 0 (started 0 cycle) (.raw (.sheet 0)) .rendering ∧
    ((render (runBodyWithin 2) 0).on cycle).1 = .ok "x" ∧
    (∃ b, (cycle.sheet 0).body = some b ∧
      ((watchBodyWithin (requireBuilding 0) 2 b (.sheet 0)).on ((started 0 cycle).withBody 0 none)).1 =
        .ok ()) ∧
    ((runProgram {} (some ⟨none, [.text .root]⟩) [.text .root]).sheet 0).rendering = false := by
  obtain ⟨hbuilding, hpass, -, hprogram⟩ := reentrancy_is_safe 2
  have hb : ((started 0 cycle).sheet 0).IsBuilding := ⟨rfl, rfl⟩
  obtain ⟨hrefused, -, -, hpassed⟩ := hbuilding _ 0 hb
  have hchecked := ((hpass cycle 0).resolve_left ?_).2.2 _ rfl _ (requireBuilding_allows 0) none
  · refine ⟨hb, (hrefused _).1, hpassed _ _ rfl rfl, rfl, ⟨_, rfl, ?_⟩, (hprogram _ _ _ 0).1⟩
    rw [hchecked]
    rfl
  · rintro ⟨r, hr⟩
    have hkept : some "x" = none := congrArg (fun p ↦ (p.2.sheet 0).output) (hr (runBodyWithin 2))
    cases hkept

end Builder

end Stylesheet
