import Stylesheet.Proofs.Includes
import Stylesheet.Proofs.Passes
import Stylesheet.Script

namespace Stylesheet

namespace Studio

/-- A relation that builder code keeps, whatever it does to sheets. -/
structure IsSteady (R : Studio → Studio → Prop) : Prop where
  refl : ∀ s, R s s
  trans : ∀ {s t u}, R s t → R t u → R s u
  updateSheet : ∀ s id f, R s (s.updateSheet id f)
  quiet : ∀ {α : Type} {m : Build α}, m.IsQuiet → ∀ s, R s (m.on s).2

theorem sameWorld_isSteady : IsSteady SameWorld where
  refl := .refl
  trans h h' := h.trans h'
  updateSheet _ _ _ := ⟨rfl, rfl⟩
  quiet hm := hm.world

theorem logsPlainly_isSteady : IsSteady LogsPlainly where
  refl := .refl
  trans h h' := h.trans h'
  updateSheet _ _ _ := .of_records rfl
  quiet hm := hm.logs

theorem streamsLast_isSteady : IsSteady StreamsLast where
  refl := .refl
  trans h h' := h.trans h'
  updateSheet _ _ _ := .of_streams rfl
  quiet hm := hm.streams

end Studio

namespace Build

open Studio

variable {α β : Type} {m : Build α} {f : α → Build β} {g : Sheet → Sheet} {id : SheetId}
  {R : Studio → Studio → Prop}

def KeepsWorld (m : Build α) : Prop := ∀ s : Studio, s.SameWorld (m.on s).2

theorem KeepsWorld.same {s t : Studio} {r : Except Fault α} (hm : m.KeepsWorld)
    (h : m.on s = (r, t)) : s.SameWorld t := Keeps.of_on hm h

theorem Keeps.get_bind {f : Studio → Build β} (hf : ∀ s, (f s).Keeps R) : (get >>= f).Keeps R :=
  fun s ↦ hf s s

theorem Keeps.outcome (hm : m.Keeps R) : (outcome m).Keeps R := hm

section

variable (hR : IsSteady R)

include hR

theorem IsQuiet.keeps (hm : m.IsQuiet) : m.Keeps R := hR.quiet hm

theorem Keeps.updateSheet (id : SheetId) (g : Sheet → Sheet) : (Build.updateSheet id g).Keeps R :=
  fun s ↦ hR.updateSheet s id g

theorem Keeps.andThenAlways (hm : m.Keeps R) : (andThenAlways m (·.updateSheet id g)).Keeps R := by
  rw [andThenAlways_eq]
  exact .bind hR.trans hm.outcome fun r ↦ .bind hR.trans (.updateSheet hR id g) fun _ ↦
    (IsQuiet.ofExcept r).keeps hR

theorem Keeps.ifItFails (hm : m.Keeps R) : (ifItFails m (·.updateSheet id g)).Keeps R := by
  rw [ifItFails_eq]
  refine .bind hR.trans hm.outcome fun r ↦ ?_
  cases r with
  | ok a => exact (IsQuiet.pure a).keeps hR
  | error e => exact .bind hR.trans (.updateSheet hR id g) fun _ ↦ (IsQuiet.throw e).keeps hR

end

end Build

namespace Builder

open Build

variable {activate : Activation} {id : SheetId} {R : Studio → Studio → Prop}

section

variable (hR : Studio.IsSteady R)

include hR

theorem checkWritable_keeps (id : SheetId) : (checkWritable id).Keeps R := by
  refine .get_bind fun s ↦ ?_
  exact IsQuiet.keeps hR (.ite (.throw _) (.pure _))

theorem write_keeps (id : SheetId) (chunkAt : Int → Chunk) : (write id chunkAt).Keeps R :=
  .bind hR.trans (checkWritable_keeps hR id) fun _ ↦ .updateSheet hR id _

variable (ha : ∀ b v, (activate b v).Keeps R)

include ha

theorem render_keeps (id : SheetId) : (render activate id).Keeps R := by
  intro s
  rw [on_render]
  cases s.answer? id with
  | some r => exact hR.refl s
  | none =>
    have hbody : (runSheetBody activate id).Keeps R := by
      refine .get_bind fun t ↦ ?_
      cases (t.sheet id).body with
      | none => exact (IsQuiet.pure ()).keeps hR
      | some b => exact ha b _
    have hpass : (pass activate id).Keeps R := by
      refine .bind hR.trans (.updateSheet hR id _) fun _ ↦ .bind hR.trans (hbody.ifItFails hR) fun _ ↦
        .bind hR.trans (.updateSheet hR id _) fun _ ↦ .get_bind fun t ↦ ?_
      exact IsQuiet.keeps hR (.bind (.log _ _) fun _ ↦ .pure _)
    exact hpass s

theorem text_keeps (v : Value) : (text activate v).Keeps R := by
  cases v with
  | sheet id => exact render_keeps hR ha id
  | _ => exact IsQuiet.keeps hR (text_isQuiet nofun)

theorem Inside.keeps {inside : Activation → Build Unit} (hi : Inside id inside) :
    (inside activate).Keeps R := by
  cases hi with
  | quiet hm => exact hm.keeps hR
  | body b => exact ha b _
  | context b => exact .bind hR.trans ((IsQuiet.newContext id).keeps hR) fun v ↦ ha b v

theorem Composed.keeps {α : Type} {m : Activation → Build α} (hm : Composed True m) :
    (m activate).Keeps R := by
  induction hm with
  | quiet hm => exact hm.keeps hR
  | bind _ _ ihm ihf => exact .bind hR.trans ihm ihf
  | outcome _ ih => exact ih.outcome
  | line id words => exact write_keeps hR id _
  | assign id name value =>
    exact .bind hR.trans (text_keeps hR ha name) fun _ ↦ .bind hR.trans (text_keeps hR ha value) fun _ ↦
      .bind hR.trans (write_keeps hR id _) fun _ ↦ .bind hR.trans (text_keeps hR ha name) fun _ ↦
        .bind hR.trans (.updateSheet hR id _) fun _ ↦ (IsQuiet.pure _).keeps hR
  | raw id chunk =>
    exact .bind hR.trans (checkWritable_keeps hR id) fun _ ↦ .bind hR.trans (text_keeps hR ha chunk) fun _ ↦
      .bind hR.trans (.updateSheet hR id _) fun _ ↦ (IsQuiet.pure _).keeps hR
  | block id heading hi =>
    exact .bind hR.trans (write_keeps hR id _) fun _ ↦ .bind hR.trans (.updateSheet hR id _) fun _ ↦
      .bind hR.trans (.andThenAlways hR (hi.keeps hR ha)) fun _ ↦ write_keeps hR id _
  | render id => exact render_keeps hR ha id

end

theorem runBodyWithin_keeps (hR : Studio.IsSteady R) (limit : Nat) (b : Body) (v : Value) :
    (runBodyWithin limit b v).Keeps R := by
  induction limit generalizing b v with
  | zero => exact (IsQuiet.throw _).keeps hR
  | succ limit ih => exact (runSteps_composed v b.steps).keeps hR ih

theorem render_keepsWorld (ha : ∀ b v, (activate b v).KeepsWorld) (id : SheetId) :
    (render activate id).KeepsWorld := render_keeps Studio.sameWorld_isSteady ha id

theorem runBodyWithin_keepsWorld (limit : Nat) (b : Body) (v : Value) :
    (runBodyWithin limit b v).KeepsWorld := runBodyWithin_keeps Studio.sameWorld_isSteady limit b v

end Builder

theorem Include.Resolves.of_steady {R : Studio → Studio → Prop} (hR : Studio.IsSteady R)
    {activate : Builder.Activation} (ha : ∀ b v, (activate b v).Keeps R) {items : List Value}
    {texts : List String} {s t : Studio} (h : Resolves activate items s texts t) : R s t :=
  ((combine_composed items).keeps hR ha).of_on h.on_combine

theorem Include.Resolves.sameWorld {activate : Builder.Activation}
    (ha : ∀ b v, (activate b v).KeepsWorld) {items : List Value} {texts : List String} {s t : Studio}
    (h : Resolves activate items s texts t) : s.SameWorld t :=
  h.of_steady Studio.sameWorld_isSteady ha

namespace Script

open Build

theorem evalDefinitions_isQuiet (done : Module) (ds : List (String × Definition Expr)) :
    (evalDefinitions done ds).IsQuiet := by
  induction ds generalizing done with
  | nil => exact .pure _
  | cons d rest ih =>
    obtain ⟨name, meaning⟩ := d
    cases meaning with
    | value x => exact .bind (Builder.eval_isQuiet _ x) fun _ ↦ ih _
    | decorator => exact .bind (.pure _) fun _ ↦ ih _

theorem run_isQuiet (s : Script) : s.run.IsQuiet := by
  refine .bind (evalDefinitions_isQuiet [] _) fun defined ↦ ?_
  cases s.failure with
  | none => exact .pure _
  | some e => exact .throw _

theorem sheetOfBody_isQuiet (path entry : String) (b : Body) : (sheetOfBody path entry b).IsQuiet :=
  .bind (.log _ _) fun _ ↦ .newSheet _

section

variable {R : Studio → Studio → Prop} (hR : Studio.IsSteady R)

include hR

theorem definitionsOf_keeps (path : String) : (definitionsOf path).Keeps R := by
  refine .get_bind fun s ↦ ?_
  have hrun : (do (ofText (← Build.ofExcept (s.files.readText path))).run : Build Module).IsQuiet :=
    .bind (.ofExcept _) fun text ↦ run_isQuiet _
  refine .bind hR.trans (hrun.keeps hR).outcome fun r ↦ ?_
  cases r with
  | ok defined => exact (IsQuiet.pure _).keeps hR
  | error e => exact (IsQuiet.throw _).keeps hR

theorem askFallback_keeps (path entry : String) (d : Option (Definition Value)) :
    (askFallback path entry d).Keeps R := by
  unfold askFallback
  split
  · exact (IsQuiet.throw _).keeps hR
  · exact (IsQuiet.bind (.log _ _) fun _ ↦ .newSheet _).keeps hR
  · refine .bind hR.trans (Builder.runBodyWithin_keeps hR _ _ _).outcome fun r ↦ ?_
    cases r with
    | ok u => exact (IsQuiet.throw _).keeps hR
    | error e => exact (IsQuiet.throw _).keeps hR
  · exact (IsQuiet.throw _).keeps hR

theorem sheetOf_keeps (path entry : String) (defined : Module) :
    (sheetOf path entry defined).Keeps R := by
  unfold sheetOf
  split
  · exact (IsQuiet.bind (.log _ _) fun _ ↦ .pure _).keeps hR
  · exact (sheetOfBody_isQuiet path entry _).keeps hR
  · exact (IsQuiet.throw _).keeps hR
  · exact (IsQuiet.throw _).keeps hR
  · split
    · exact (sheetOfBody_isQuiet path entry _).keeps hR
    · split
      · exact (IsQuiet.throw _).keeps hR
      · exact askFallback_keeps hR path entry _

theorem load_keeps (path : Path) (entry : String) : (load path entry).Keeps R := by
  refine .get_bind fun s ↦ ?_
  split
  · exact (IsQuiet.throw _).keeps hR
  · split
    · exact (IsQuiet.throw _).keeps hR
    · exact .bind hR.trans (definitionsOf_keeps hR _) fun defined ↦ sheetOf_keeps hR _ entry defined
  · exact (IsQuiet.throw _).keeps hR

end

theorem load_keepsWorld (path : Path) (entry : String) : (load path entry).KeepsWorld :=
  load_keeps Studio.sameWorld_isSteady path entry

end Script

end Stylesheet
