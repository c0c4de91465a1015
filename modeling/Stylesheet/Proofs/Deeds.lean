import Stylesheet.Proofs.Reentrancy

namespace Stylesheet

open Build

/-- A sheet is used if anything is asked of it or done to it, by whichever body. -/
inductive Deed where
  | use (id : SheetId)
  | pass (id : SheetId)
deriving DecidableEq

namespace Builder

/-- The run of a computation from a studio, taken apart, with what it does to sheets. -/
inductive Does : {α : Type} → Build α → Studio → List Deed → Prop
  | quiet {α : Type} {m : Build α} {s : Studio} (hm : m.IsQuiet) : Does m s []
  | check {s : Studio} (id : SheetId) : Does (checkWritable id) s [.use id]
  | change {s : Studio} (id : SheetId) {g : Sheet → Sheet} (ho : ∀ S, (g S).output = S.output)
      (hr : ∀ S, (g S).rendering = S.rendering) : Does (Build.updateSheet id g) s [.use id]
  | bind {α β : Type} {m : Build α} {f : α → Build β} {s t : Studio} {a : α} {ds es : List Deed}
      (h : m.on s = (.ok a, t)) : Does m s ds → Does (f a) t es → Does (m >>= f) s (ds ++ es)
  | fails {α β : Type} {m : Build α} {f : α → Build β} {s t : Studio} {e : Fault} {ds : List Deed}
      (h : m.on s = (.error e, t)) : Does m s ds → Does (m >>= f) s ds
  | outcome {α : Type} {m : Build α} {s : Studio} {ds : List Deed} :
      Does m s ds → Does (Build.outcome m) s ds
  | noBody {activate : Activation} {id : SheetId} {s : Studio} (h : (s.sheet id).body = none) :
      Does (runSheetBody activate id) s []
  | body {activate : Activation} {id : SheetId} {s : Studio} {b : Body} {ds : List Deed}
      (h : (s.sheet id).body = some b) :
      Does (activate b (.sheet id)) s ds → Does (runSheetBody activate id) s ds
  | answered {activate : Activation} {id : SheetId} {s : Studio} {r : Except Fault String}
      (h : s.answer? id = some r) : Does (render activate id) s [.use id]
  | passed {activate : Activation} {id : SheetId} {s t : Studio} {ds : List Deed}
      (hs : s.answer? id = none)
      (h : (runSheetBody activate id).on (started id s) = (.ok (), t)) :
      Does (runSheetBody activate id) (started id s) ds →
      Does (render activate id) s (.use id :: ds ++ [.pass id])
  | notPassed {activate : Activation} {id : SheetId} {s t : Studio} {e : Fault} {ds : List Deed}
      (hs : s.answer? id = none)
      (h : (runSheetBody activate id).on (started id s) = (.error e, t)) :
      Does (runSheetBody activate id) (started id s) ds →
      Does (render activate id) s (.use id :: ds)

/-- What has become of sheets in a run with the given deeds. -/
structure Leaves (ds : List Deed) (s t : Studio) : Prop where
  length : s.sheets.length ≤ t.sheets.length
  unused : ∀ id, id < s.sheets.length → .use id ∉ ds → t.sheet id = s.sheet id
  building : ∀ id, (s.sheet id).IsBuilding → (t.sheet id).IsBuilding
  text : ∀ id T, (s.sheet id).output = some T → (t.sheet id).output = some T
  passes : ∀ id, ds.count (.pass id) + (s.sheet id).isFinished.toNat = (t.sheet id).isFinished.toNat

namespace Leaves

variable {s t u : Studio} {ds es : List Deed} {id : SheetId} {f g : Sheet → Sheet}

theorem refl (s : Studio) : Leaves [] s s where
  length := Nat.le_refl _
  unused _ _ _ := rfl
  building _ h := h
  text _ _ h := h
  passes _ := by simp

theorem of_quiet {α : Type} {m : Build α} (hm : m.IsQuiet) (s : Studio) : Leaves [] s (m.on s).2 := by
  obtain ⟨bodies, hs⟩ := hm.makes s
  have hpre : s.sheets <+: (m.on s).2.sheets := ⟨_, hs.symm⟩
  refine ⟨hpre.length_le, fun id hid _ ↦ Studio.sheet_of_prefix hpre hid, fun id hb ↦ ?_,
    fun id T hT ↦ ?_, fun id ↦ ?_⟩
  · rwa [Studio.sheet_of_prefix hpre (Studio.lt_of_isBuilding hb)]
  · rwa [Studio.sheet_of_prefix hpre (s.lt_of_output id hT)]
  · rcases Nat.lt_or_ge id s.sheets.length with hid | hid
    · rw [Studio.sheet_of_prefix hpre hid]
      simp
    · rw [s.sheet_eq_default id hid, Studio.sheet, hs, List.getD_eq_getElem?_getD,
        List.getElem?_append_right hid, List.getElem?_map]
      rcases bodies[id - s.sheets.length]? with _ | b <;> rfl

theorem trans (h : Leaves ds s t) (h' : Leaves es t u) : Leaves (ds ++ es) s u where
  length := Nat.le_trans h.length h'.length
  unused id hid hu := by
    rw [List.mem_append, not_or] at hu
    rw [h'.unused id (Nat.lt_of_lt_of_le hid h.length) hu.2, h.unused id hid hu.1]
  building id hb := h'.building id (h.building id hb)
  text id T hT := h'.text id T (h.text id T hT)
  passes id := by
    have h₁ := h.passes id
    have h₂ := h'.passes id
    rw [List.count_append]
    omega

theorem within (h : Leaves ds (s.updateSheet id f) t) (hes : ∀ j, j ≠ id → es.count (.pass j) = 0)
    (hb : (s.sheet id).IsBuilding → ((t.updateSheet id g).sheet id).IsBuilding)
    (ht : ∀ T, (s.sheet id).output = some T → ((t.updateSheet id g).sheet id).output = some T)
    (hp : ds.count (.pass id) + es.count (.pass id) + (s.sheet id).isFinished.toNat =
      ((t.updateSheet id g).sheet id).isFinished.toNat) :
    Leaves (.use id :: ds ++ es) s (t.updateSheet id g) := by
  have hlength := h.length
  rw [s.length_updateSheet] at hlength
  refine ⟨by simpa using hlength, fun j hj hu ↦ ?_, fun j hj ↦ ?_, fun j T hT ↦ ?_, fun j ↦ ?_⟩
  · simp only [List.mem_append, List.mem_cons, not_or, Deed.use.injEq] at hu
    have hne := Ne.symm hu.1.1
    rw [t.sheet_updateSheet_ne id j g hne, h.unused j (by simpa using hj) hu.1.2,
      s.sheet_updateSheet_ne id j f hne]
  · by_cases hne : id = j
    · exact hne ▸ hb (hne ▸ hj)
    · rw [t.sheet_updateSheet_ne id j g hne]
      exact h.building j (by rwa [s.sheet_updateSheet_ne id j f hne])
  · by_cases hne : id = j
    · exact hne ▸ ht T (hne ▸ hT)
    · rw [t.sheet_updateSheet_ne id j g hne]
      exact h.text j T (by rwa [s.sheet_updateSheet_ne id j f hne])
  · rw [List.count_append, List.count_cons_of_ne (by simp)]
    by_cases hne : id = j
    · exact hne ▸ hp
    · have hj := h.passes j
      rw [s.sheet_updateSheet_ne id j f hne] at hj
      rw [t.sheet_updateSheet_ne id j g hne, hes j (Ne.symm hne)]
      exact hj

theorem change (id : SheetId) (s : Studio) (ho : ∀ S, (g S).output = S.output)
    (hr : ∀ S, (g S).rendering = S.rendering) : Leaves [.use id] s (s.updateSheet id g) := by
  have hsame : s.updateSheet id (fun S ↦ S) = s := s.updateSheet_of_eq id _ rfl
  have hbegin : Leaves [] (s.updateSheet id fun S ↦ S) s := hsame.symm ▸ refl s
  have hg : ((s.updateSheet id g).sheet id).output = (s.sheet id).output ∧
      ((s.updateSheet id g).sheet id).rendering = (s.sheet id).rendering := by
    rcases Nat.lt_or_ge id s.sheets.length with hid | hid
    · rw [s.sheet_updateSheet_self id g hid]
      exact ⟨ho _, hr _⟩
    · rw [s.sheet_eq_default id hid, Studio.sheet_eq_default _ _ (by simpa using hid)]
      exact ⟨rfl, rfl⟩
  have hw : Leaves (.use id :: [] ++ []) s (s.updateSheet id g) := by
    refine hbegin.within (fun _ _ ↦ rfl) (fun hb ↦ ?_) (fun T hT ↦ hg.1.trans hT) ?_
    · exact ⟨hg.1.trans hb.output, hg.2.trans hb.rendering⟩
    · simp [Sheet.isFinished, hg.1]
  exact hw

theorem used (id : SheetId) (s : Studio) : Leaves [.use id] s s where
  length := Nat.le_refl _
  unused _ _ _ := rfl
  building _ h := h
  text _ _ h := h
  passes _ := by simp

/-- No pass over a sheet comes to an end within another. -/
theorem in_pass (hs : s.answer? id = none) (h : Leaves ds (started id s) t) :
    (t.sheet id).IsBuilding ∧ ds.count (.pass id) = 0 := by
  obtain ⟨hid, ho, -⟩ := Studio.answer?_eq_none.1 hs
  have hstart : ((started id s).sheet id).IsBuilding := by
    rw [started, s.sheet_updateSheet_self id _ hid]
    exact ⟨ho, rfl⟩
  have hlast := h.building id hstart
  refine ⟨hlast, ?_⟩
  have hp := h.passes id
  simp only [Sheet.isFinished, hlast.output] at hp
  exact Nat.eq_zero_of_add_eq_zero_right hp

theorem of_pass (hs : s.answer? id = none) (h : Leaves ds (started id s) t) :
    Leaves (.use id :: ds ++ [.pass id]) s (rendered id t) := by
  obtain ⟨-, ho, hr⟩ := Studio.answer?_eq_none.1 hs
  obtain ⟨hlast, hcount⟩ := h.in_pass hs
  have hw : Leaves (.use id :: ds ++ [.pass id]) s (t.updateSheet id Sheet.finish) := by
    refine h.within (fun j hj ↦ by simp [Ne.symm hj]) (fun hb ↦ ?_) (fun T hT ↦ ?_) ?_
    · simp [hb.rendering] at hr
    · simp [ho] at hT
    · rw [t.sheet_updateSheet_self id _ (Studio.lt_of_isBuilding hlast), hcount]
      simp [Sheet.isFinished, ho, Sheet.finish]
  exact ⟨hw.length, hw.unused, hw.building, hw.text, hw.passes⟩

theorem of_failed_pass (hs : s.answer? id = none) (h : Leaves ds (started id s) t) :
    Leaves (.use id :: ds) s (t.updateSheet id Sheet.abandon) := by
  obtain ⟨-, ho, hr⟩ := Studio.answer?_eq_none.1 hs
  obtain ⟨hlast, hcount⟩ := h.in_pass hs
  have hw : Leaves (.use id :: ds ++ []) s (t.updateSheet id Sheet.abandon) := by
    refine h.within (fun _ _ ↦ rfl) (fun hb ↦ ?_) (fun T hT ↦ ?_) ?_
    · simp [hb.rendering] at hr
    · simp [ho] at hT
    · rw [t.sheet_updateSheet_self id _ (Studio.lt_of_isBuilding hlast), hcount]
      simp [Sheet.isFinished, ho, Sheet.abandon, hlast.output]
  rwa [List.append_nil] at hw

end Leaves

theorem Does.leaves {α : Type} {m : Build α} {s : Studio} {ds : List Deed} (h : Does m s ds) :
    Leaves ds s (m.on s).2 := by
  induction h with
  | quiet hm => exact .of_quiet hm _
  | @check s id =>
    rcases ho : (s.sheet id).output with _ | T
    · rw [on_checkWritable ho]
      exact .used id s
    · rw [on_checkWritable_finished ho]
      exact .used id s
  | change id ho hr => exact .change id _ ho hr
  | bind h _ _ ihm ihf =>
    rw [h] at ihm
    rw [on_bind_ok h]
    exact ihm.trans ihf
  | fails h _ ih =>
    rw [h] at ih
    rwa [on_bind_error h]
  | outcome _ ih => exact ih
  | @noBody _ id s h =>
    rw [runSheetBody, on_bind_ok (on_sheet id s), h]
    exact .refl s
  | @body _ id s _ _ h _ ih =>
    rw [runSheetBody, on_bind_ok (on_sheet id s), h]
    exact ih
  | answered h =>
    rw [on_render, h]
    exact .used _ _
  | passed hs h _ ih =>
    rw [h] at ih
    rw [on_render, hs, on_pass_ok h]
    exact ih.of_pass hs
  | notPassed hs h _ ih =>
    rw [h] at ih
    rw [on_render, hs]
    dsimp only
    rw [on_pass_error h]
    exact ih.of_failed_pass hs

def HasDeeds {α : Type} (m : Build α) : Prop := ∀ s, ∃ ds, Does m s ds

section

variable {α β : Type} {m : Build α} {f : α → Build β}

theorem HasDeeds.of_quiet (hm : m.IsQuiet) : HasDeeds m := fun _ ↦ ⟨[], .quiet hm⟩

theorem HasDeeds.bind (hm : HasDeeds m) (hf : ∀ a, HasDeeds (f a)) : HasDeeds (m >>= f) := by
  intro s
  obtain ⟨ds, hd⟩ := hm s
  rcases h : m.on s with ⟨e | a, t⟩
  · exact ⟨ds, .fails h hd⟩
  · obtain ⟨es, he⟩ := hf a t
    exact ⟨_, .bind h hd he⟩

theorem HasDeeds.outcome (hm : HasDeeds m) : HasDeeds (Build.outcome m) := by
  intro s
  obtain ⟨ds, hd⟩ := hm s
  exact ⟨ds, .outcome hd⟩

theorem HasDeeds.change (id : SheetId) {g : Sheet → Sheet} (ho : ∀ S, (g S).output = S.output)
    (hr : ∀ S, (g S).rendering = S.rendering) : HasDeeds (Build.updateSheet id g) :=
  fun _ ↦ ⟨_, .change id ho hr⟩

theorem checkWritable_hasDeeds (id : SheetId) : HasDeeds (checkWritable id) := fun _ ↦ ⟨_, .check id⟩

theorem write_hasDeeds (id : SheetId) (chunkAt : Int → Chunk) : HasDeeds (write id chunkAt) :=
  .bind (checkWritable_hasDeeds id) fun _ ↦ .change id (fun _ ↦ rfl) fun _ ↦ rfl

theorem HasDeeds.andThenRise (id : SheetId) {inside : Build Unit} (hi : HasDeeds inside) :
    HasDeeds (andThenAlways inside fun s ↦ s.updateSheet id Sheet.rise) := by
  rw [andThenAlways_eq]
  exact .bind hi.outcome fun r ↦ .bind (.change id (fun _ ↦ rfl) fun _ ↦ rfl) fun _ ↦
    .of_quiet (.ofExcept r)

theorem block_hasDeeds (id : SheetId) (heading : String) {inside : Build Unit}
    (hi : HasDeeds inside) : HasDeeds (block id heading inside) :=
  .bind (write_hasDeeds id _) fun _ ↦ .bind (.change id (fun _ ↦ rfl) fun _ ↦ rfl) fun _ ↦
    .bind (hi.andThenRise id) fun _ ↦ write_hasDeeds id _

end

section

variable {activate : Activation} (ha : ∀ b v, HasDeeds (activate b v))

include ha

theorem runSheetBody_hasDeeds (id : SheetId) : HasDeeds (runSheetBody activate id) := by
  intro s
  rcases hb : (s.sheet id).body with _ | b
  · exact ⟨[], .noBody hb⟩
  · obtain ⟨ds, hd⟩ := ha b (.sheet id) s
    exact ⟨ds, .body hb hd⟩

theorem render_hasDeeds (id : SheetId) : HasDeeds (render activate id) := by
  intro s
  cases hs : s.answer? id with
  | some r => exact ⟨_, .answered hs⟩
  | none =>
    obtain ⟨ds, hd⟩ := runSheetBody_hasDeeds ha id (started id s)
    rcases h : (runSheetBody activate id).on (started id s) with ⟨e | _, t⟩
    · exact ⟨_, .notPassed hs h hd⟩
    · exact ⟨_, .passed hs h hd⟩

theorem text_hasDeeds (v : Value) : HasDeeds (text activate v) := by
  cases v with
  | sheet id => exact render_hasDeeds ha id
  | _ => exact .of_quiet (text_isQuiet nofun)

theorem Inside.hasDeeds {id : SheetId} {inside : Activation → Build Unit} (hi : Inside id inside) :
    HasDeeds (inside activate) := by
  cases hi with
  | quiet hm => exact .of_quiet hm
  | body b => exact ha b _
  | context b => exact .bind (.of_quiet (.newContext id)) fun v ↦ ha b v

theorem Composed.hasDeeds {α : Type} {m : Activation → Build α} (hm : Composed True m) :
    HasDeeds (m activate) := by
  induction hm with
  | quiet hm => exact .of_quiet hm
  | bind _ _ ihm ihf => exact .bind ihm ihf
  | outcome _ ih => exact ih.outcome
  | line id words => exact write_hasDeeds id _
  | assign id name value =>
    exact .bind (text_hasDeeds ha name) fun _ ↦ .bind (text_hasDeeds ha value) fun _ ↦
      .bind (write_hasDeeds id _) fun _ ↦ .bind (text_hasDeeds ha name) fun _ ↦
        .bind (.change id (fun _ ↦ rfl) fun _ ↦ rfl) fun _ ↦ .of_quiet (.pure _)
  | raw id chunk =>
    exact .bind (checkWritable_hasDeeds id) fun _ ↦ .bind (text_hasDeeds ha chunk) fun _ ↦
      .bind (.change id (fun _ ↦ rfl) fun _ ↦ rfl) fun _ ↦ .of_quiet (.pure _)
  | block id heading hi => exact block_hasDeeds id heading (hi.hasDeeds ha)
  | render id => exact render_hasDeeds ha id

end

theorem runBodyWithin_hasDeeds (limit : Nat) (b : Body) (v : Value) :
    HasDeeds (runBodyWithin limit b v) := by
  induction limit generalizing b v with
  | zero => exact .of_quiet (.throw _)
  | succ limit ih => exact (runSteps_composed v b.steps).hasDeeds ih

end Builder

end Stylesheet
