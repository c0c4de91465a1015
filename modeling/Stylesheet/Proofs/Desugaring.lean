import Stylesheet.Proofs.Spelling

namespace Stylesheet.Builder

open Build

section

variable (ρ : Spelling → Spelling) (check : Build Unit) (activate : Activation)

def rewriteCall (argument : Value) (on : Receiver) (name : String) (args : List Expr)
    (named : List (String × Expr)) (bind : Option String) : Build Outcome := do
  let target ← receiver argument on
  let _ ← Build.ofExcept (Attribute.ofValue target name)
  let args ← evalAll argument args
  let named ← evalNamed argument named
  let result ← (ρ ⟨target, name, args, named⟩).run activate
  match bind with
  | none => pure ()
  | some n => bindName n result
  return .returned result

mutual

/-- Runs a step as `watchStep` does, with every call rewritten. -/
def rewriteStep (argument : Value) : Step → Build Unit
  | .attempt steps => do
    match ← Build.outcome (rewriteSteps argument steps) with
    | .ok () => note (.returned .none)
    | .error e => note (.caught e)
  | .call on name args named bind => noted (rewriteCall ρ activate argument on name args named bind)
  | step => runStep activate argument step

def rewriteSteps (argument : Value) : List Step → Build Unit
  | [] => check
  | step :: rest => do
    check
    rewriteStep argument step
    rewriteSteps argument rest

end

end

section

variable (ρ : Spelling → Spelling)

/-- Runs a body as `watchBodyWithin` does, with every call rewritten, in bodies inside it too. -/
def rewriteBodyWithin (check : Build Unit) : Nat → Activation
  | 0, _, _ => throw .tooDeep
  | limit + 1, b, argument =>
    rewriteSteps ρ check (rewriteBodyWithin check limit) argument b.steps

/-- Runs a program as `runEach` does, with every call rewritten. -/
def rewriteEach (limit : Nat) : List Step → StateM Studio Unit
  | [] => pure ()
  | step :: rest => do
    let activate := rewriteBodyWithin ρ (pure ()) limit
    let _ ← (rewriteStep ρ (pure ()) activate (.sheet Studio.rootSheet) step).run
    rewriteEach limit rest

end

section

variable {ρ : Spelling → Spelling} {check : Build Unit} {activate : Activation}

theorem run_of_desugars {w w' : Spelling} (h : Relation.ReflTransGen Desugars w w') :
    w'.run activate = w.run activate := by
  induction h with
  | refl => rfl
  | tail _ hw ih => rw [← hw.run_eq activate, ih]

theorem callStep_eq (argument : Value) (on : Receiver) (name : String) (args : List Expr)
    (named : List (String × Expr)) (bind : Option String) :
    callStep activate argument on name args named bind =
      rewriteCall id activate argument on name args named bind := by
  simp only [callStep, rewriteCall, resolve, Spelling.run, Spelling.operation, bind_assoc, pure_bind]
  refine bind_congr fun target ↦ ?_
  rcases hf : Attribute.ofValue target name with e | found
  · rfl
  · simp only [id, hf]
    rfl

theorem rewriteCall_eq (hρ : ∀ w, (ρ w).run activate = w.run activate) (argument : Value)
    (on : Receiver) (name : String) (args : List Expr) (named : List (String × Expr))
    (bind : Option String) :
    rewriteCall ρ activate argument on name args named bind =
      callStep activate argument on name args named bind := by
  rw [callStep_eq]
  simp only [rewriteCall, hρ, id]

mutual

theorem rewriteStep_eq (hρ : ∀ w, (ρ w).run activate = w.run activate) (argument : Value) :
    (step : Step) →
    rewriteStep ρ check activate argument step = watchStep check activate argument step
  | .attempt steps => by
    have houtcome := congrArg Build.outcome (rewriteSteps_eq hρ argument steps)
    rw [rewriteStep, watchStep]
    exact (congrArg (· >>= _) houtcome).trans (bind_congr fun r ↦ by cases r <;> rfl)
  | .call on name args named bind => by
    rw [rewriteStep, rewriteCall_eq hρ, watchStep, runStep]
    exact fun _ h ↦ nomatch h
  | .get .. | .has .. | .text .. | .shown .. | .bind .. | .fail .. | .misuse .. | .css .. => rfl

theorem rewriteSteps_eq (hρ : ∀ w, (ρ w).run activate = w.run activate) (argument : Value) :
    (steps : List Step) →
    rewriteSteps ρ check activate argument steps = watchSteps check activate argument steps
  | [] => rfl
  | step :: rest => by
    rw [rewriteSteps, watchSteps, rewriteStep_eq hρ argument step, rewriteSteps_eq hρ argument rest]

end

mutual

theorem watchStep_pure (argument : Value) : (step : Step) →
    watchStep (pure ()) activate argument step = runStep activate argument step
  | .attempt steps => by
    have houtcome := congrArg Build.outcome (watchSteps_pure argument steps)
    rw [watchStep, runStep]
    exact (congrArg (· >>= _) houtcome).trans (bind_congr fun r ↦ by cases r <;> rfl)
  | .call .. | .get .. | .has .. | .text .. | .shown .. | .bind .. | .fail .. | .misuse ..
  | .css .. => rfl

theorem watchSteps_pure (argument : Value) : (steps : List Step) →
    watchSteps (pure ()) activate argument steps = runSteps activate argument steps
  | [] => rfl
  | step :: rest => by
    rw [watchSteps, runSteps, watchStep_pure argument step, watchSteps_pure argument rest, pure_bind]

end

theorem watchBodyWithin_pure (limit : Nat) : watchBodyWithin (pure ()) limit = runBodyWithin limit := by
  induction limit with
  | zero => rfl
  | succ limit ih =>
    funext b argument
    rw [watchBodyWithin, runBodyWithin, ih, watchSteps_pure]

theorem rewriteBodyWithin_eq (hρ : ∀ activate w, (ρ w).run activate = w.run activate) (limit : Nat) :
    rewriteBodyWithin ρ check limit = watchBodyWithin check limit := by
  induction limit with
  | zero => rfl
  | succ limit ih =>
    funext b argument
    rw [rewriteBodyWithin, watchBodyWithin, ih, rewriteSteps_eq (hρ _)]

theorem rewriteEach_eq (hρ : ∀ activate w, (ρ w).run activate = w.run activate) (limit : Nat)
    (steps : List Step) : rewriteEach ρ limit steps = runEach limit steps := by
  induction steps with
  | nil => rfl
  | cons step rest ih =>
    rw [rewriteEach, runEach, ih, rewriteBodyWithin_eq hρ, watchBodyWithin_pure, rewriteStep_eq (hρ _),
      watchStep_pure]

end

/-- Rewriting calls towards their core forms, any of them and each as far as one likes, changes nothing.
A rewritten call is the same computation. So is a rewritten body or program, with any check at every
point of its run: the studio is the same there, with the chunks, the tokens, the indentation and the
text of every sheet, and the same errors come at the same points. And a sheet has the same text. -/
theorem rewriting_keeps_runs {ρ : Spelling → Spelling}
    (hρ : ∀ w, Relation.ReflTransGen Desugars w (ρ w)) (limit : Nat) :
    (∀ activate w, (ρ w).run activate = w.run activate) ∧
    (∀ check, rewriteBodyWithin ρ check limit = watchBodyWithin check limit) ∧
    (∀ check argument step,
      rewriteStep ρ check (rewriteBodyWithin ρ check limit) argument step =
        watchStep check (watchBodyWithin check limit) argument step) ∧
    rewriteBodyWithin ρ (pure ()) limit = runBodyWithin limit ∧
    (∀ id, render (rewriteBodyWithin ρ (pure ()) limit) id = render (runBodyWithin limit) id) ∧
    ∀ steps s, (rewriteEach ρ limit steps).run s = (runEach limit steps).run s := by
  have hrun (activate : Activation) (w : Spelling) : (ρ w).run activate = w.run activate :=
    run_of_desugars (hρ w)
  have hbody (check : Build Unit) : rewriteBodyWithin ρ check limit = watchBodyWithin check limit :=
    rewriteBodyWithin_eq hrun limit
  have hplain : rewriteBodyWithin ρ (pure ()) limit = runBodyWithin limit := by
    rw [hbody, watchBodyWithin_pure]
  refine ⟨hrun, hbody, ?_, hplain, ?_, ?_⟩
  · intro check argument step
    rw [hbody, rewriteStep_eq (hrun _)]
  · intro id
    rw [hplain]
  · intro steps s
    rw [rewriteEach_eq hrun]

/-- A program with a word, a directive, a context's name and a body at the end of arguments. -/
def sugared : List Step :=
  [.call .root "s_with_context"
    [.atom (.text "a"), .body none
      [.call .argument "hover" [.body none [.call .argument "width" [.atom (.text "auto")] [] none]]
        [] none]] [] none,
    .call .root "media" [.atom (.text "print"), .body none
      [.call .argument "min_width" [.atom (.int 2)] [] none]] [] none]

theorem rewriting_keeps_sugared :
    (∀ w, Relation.ReflTransGen Desugars w w.core) ∧
    (⟨.sheet 0, "media", [.text "print", .body 0 ⟨none, []⟩], []⟩ : Spelling).core =
      ⟨.sheet 0, "directive", [.text "@media", .text "print"], [("body", .body 0 ⟨none, []⟩)]⟩ ∧
    (((rewriteEach Spelling.core 3 sugared).run (Studio.withRoot {} none)).2.sheet 0).document =
      "a \x7b\n  &:hover \x7b\n    width: auto;\n  \x7d\n\x7d\n@media print \x7b\n  min-width: 2;\n\x7d\n" := by
  obtain ⟨-, -, -, -, -, heach⟩ := rewriting_keeps_runs Spelling.core_desugars 3
  refine ⟨Spelling.core_desugars, rfl, ?_⟩
  rw [heach]
  decide +kernel

end Stylesheet.Builder
