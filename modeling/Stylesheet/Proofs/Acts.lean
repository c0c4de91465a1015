import Stylesheet.Command.Perform
import Stylesheet.Proofs.World

namespace Stylesheet

theorem Studio.IsSteady.record {R : Studio → Studio → Prop} (hR : IsSteady R) {r : Log.Record}
    (hr : r.IsPlain) (s : Studio) : R s (s.record r) := by
  have hquiet : (modify fun s ↦ s.record r : Build Unit).IsQuiet :=
    .modify (fun _ ↦ rfl) (fun _ ↦ rfl) (fun _ _ _ ↦ rfl) (fun _ ↦ ⟨rfl, rfl⟩) (.record hr)
  exact hR.quiet hquiet s

namespace Command

def Ending.reporting (report : Fault → Option String) (f : Fault) : Ending :=
  match report f with
  | some _ => .failed
  | none => .ofFault f

namespace Act

variable {α β : Type} {m : Act α} {f : α → Act β} {s t : Studio} {halt : Stop} {b : Build α}
  {report : Fault → Option String} {R : Studio → Studio → Prop}

def on (m : Act α) (s : Studio) : Except Stop α × Studio := m.run.run s

theorem on_bind (m : Act α) (f : α → Act β) (s : Studio) :
    (m >>= f).on s = match m.on s with
      | (.ok a, t) => (f a).on t
      | (.error e, t) => (.error e, t) := by
  simp only [on, ExceptT.run_bind, StateT.run_bind]
  rcases m.run.run s with ⟨_ | _, _⟩ <;> rfl

theorem on_bind_ok {a : α} (h : m.on s = (.ok a, t)) : (m >>= f).on s = (f a).on t := by
  rw [on_bind, h]

theorem on_bind_error (h : m.on s = (.error halt, t)) : (m >>= f).on s = (.error halt, t) := by
  rw [on_bind, h]

theorem on_ofExcept (a : α) (s : Studio) : (Act.ofExcept (.ok a)).on s = (.ok a, s) := rfl

theorem on_ofExcept_error (e : Fault) (s : Studio) :
    (Act.ofExcept (.error e : Except Fault α)).on s = (.error { ending := .ofFault e }, s) := rfl

theorem on_get (s : Studio) : (get : Act Studio).on s = (.ok s, s) := rfl

def reported (report : Fault → Option String) (f : Fault) (s : Studio) : Studio :=
  match report f with
  | some message => s.record (.plain Log.mainLogger Log.error message)
  | none => s

theorem on_stage_ok {a : α} (h : b.on s = (.ok a, t)) : (stage b report).on s = (.ok a, t) := by
  rw [Build.on] at h
  simp only [on, stage, ExceptT.run_mk, StateT.run_bind, h]
  rfl

theorem on_stage_error {e : Fault} (h : b.on s = (.error e, t)) :
    (stage b report).on s = (.error { ending := .reporting report e }, reported report e t) := by
  rw [Build.on] at h
  simp only [on, stage, ExceptT.run_mk, StateT.run_bind, h]
  change (match report e with
    | some message => (fail message : Act α).run
    | none => return .error { ending := .ofFault e } : StateM Studio (Except Stop α)).run t = _
  rw [Ending.reporting, reported]
  cases report e <;> rfl

def Keeps (R : Studio → Studio → Prop) (m : Act α) : Prop := ∀ s : Studio, R s (m.on s).2

theorem Keeps.of_on {r : Except Stop α} (hm : m.Keeps R) (h : m.on s = (r, t)) : R s t := by
  have hs := hm s
  rwa [h] at hs

theorem Keeps.get_bind {f : Studio → Act β} (hf : ∀ s, (f s).Keeps R) : (get >>= f).Keeps R :=
  fun s ↦ hf s s

theorem Keeps.ite {p : Prop} [Decidable p] {n : Act α} (hm : m.Keeps R) (hn : n.Keeps R) :
    (if p then m else n).Keeps R := by
  by_cases hp : p
  · rwa [if_pos hp]
  · rwa [if_neg hp]

section

variable (hR : Studio.IsSteady R)

include hR

theorem Keeps.pure (a : α) : (pure a : Act α).Keeps R := fun s ↦ hR.refl s

theorem Keeps.throw (halt : Stop) : (throw halt : Act α).Keeps R := fun s ↦ hR.refl s

theorem Keeps.bind (hm : m.Keeps R) (hf : ∀ a, (f a).Keeps R) : (m >>= f).Keeps R := by
  intro s
  have hs := hm s
  rcases h : m.on s with ⟨e | a, t⟩ <;> rw [h] at hs
  · rw [on_bind_error h]
    exact hs
  · rw [on_bind_ok h]
    exact hR.trans hs (hf a t)

theorem Keeps.log {r : Log.Record} (hr : r.IsPlain) : (log r).Keeps R := hR.record hr

theorem Keeps.note (level : Log.Level) (message : String) : (note level message).Keeps R :=
  .log hR (Log.plain_isPlain _ _ _)

theorem Keeps.fail (message : String) : (fail message : Act α).Keeps R :=
  .bind hR (.note hR _ _) fun _ ↦ .throw hR _

theorem reported_of_steady (report : Fault → Option String) (e : Fault) (s : Studio) :
    R s (reported report e s) := by
  unfold reported
  split
  · exact hR.record (Log.plain_isPlain _ _ _) s
  · exact hR.refl s

theorem Keeps.stage (hb : b.Keeps R) (report : Fault → Option String) :
    (stage b report).Keeps R := by
  intro s
  rcases h : b.on s with ⟨e | a, t⟩
  · rw [on_stage_error h]
    exact hR.trans (hb.of_on h) (reported_of_steady hR report e t)
  · rw [on_stage_ok h]
    exact hb.of_on h

theorem Keeps.ofExcept (r : Except Fault α) : (ofExcept r).Keeps R :=
  .stage hR ((Build.IsQuiet.ofExcept r).keeps hR) _

end

def IsSilent (m : Act α) : Prop := ∀ s halt t, m.on s = (.error halt, t) → halt.printed = ""

theorem IsSilent.pure (a : α) : (pure a : Act α).IsSilent := by
  intro s halt t h
  cases h

theorem IsSilent.stop (e : Ending) : (Act.stop e : Act α).IsSilent := by
  intro s halt t h
  cases h
  rfl

theorem IsSilent.get_bind {f : Studio → Act β} (hf : ∀ s, (f s).IsSilent) : (get >>= f).IsSilent :=
  fun s ↦ hf s s

theorem IsSilent.bind (hm : m.IsSilent) (hf : ∀ a, (f a).IsSilent) : (m >>= f).IsSilent := by
  intro s halt t h
  rcases hs : m.on s with ⟨e | a, u⟩
  · rw [on_bind_error hs] at h
    cases h
    exact hm s _ _ hs
  · rw [on_bind_ok hs] at h
    exact hf a u halt t h

theorem IsSilent.stage (b : Build α) (report : Fault → Option String) :
    (stage b report).IsSilent := by
  intro s halt t h
  rcases hs : b.on s with ⟨e | a, u⟩
  · rw [on_stage_error hs] at h
    cases h
    rfl
  · rw [on_stage_ok hs] at h
    cases h

end Act

end Command

end Stylesheet
