import Stylesheet.Proofs.Desugaring
import Stylesheet.Proofs.MethodNames

namespace Stylesheet.Builder

open Build

abbrev Reading := String → Attribute

namespace Reading

/-- The words of a vocabulary stand for what they are, all other names for properties. -/
def ofTable (table : Table String Vocabulary.Entry) : Reading := fun name ↦
  match table.get? name with
  | none => .method .declare [.text (Vocabulary.propertyName name)]
  | some entry =>
    if entry.isDirective then .method .directive [.text entry.name]
    else .method .declare [.text entry.name]

section

variable (ρ : Reading)

def ofSheet (name : String) : Except Fault Attribute :=
  match Method.ofName? name, Attribute.propertyOfSheet? name with
  | some m, _ => .ok (.method m [])
  | none, some p => .ok (.property p)
  | none, none =>
    if Attribute.isPrivate name then .error (.unknownAttribute "Renderer" name) else .ok (ρ name)

def ofValue (target : Value) (name : String) : Except Fault Attribute :=
  match target with
  | .sheet _ => ρ.ofSheet name
  | v => Attribute.ofValue v name

variable (activate : Activation)

def ask (target : Value) (request : String) (args : List Value) : Build Unit :=
  match target with
  | .sheet id => do
    let found ← Build.ofExcept (ρ.ofSheet request)
    let call ← Build.ofExcept (found.bind args [])
    let _ ← Builder.perform activate id call
    return
  | v => Builder.ask activate v request args

def hasMarker : Value → Build Bool
  | .sheet id => do
    ρ.ask activate (.sheet id) "startswith" [.text "@"]
    return false
  | v => Builder.hasMarker activate v

def directiveHeading (name : Value) (args : List Value) : Build String := do
  let marked ← ρ.hasMarker activate name
  let shown ← text activate name
  let name := if marked then shown else "@" ++ shown
  return Text.join " " (name :: (← texts activate args))

def headed (id : SheetId) (h : Heading) (body : Value) : Build Unit :=
  match h with
  | .directive name args => do
    let (args, body) ← splitBody args body
    let opening ← ρ.directiveHeading activate name args
    block id opening (runBody activate body (.sheet id))
  | h => Builder.headed activate id h body

def source : Value → Build String
  | .sheet id => do
    ρ.ask activate (.sheet id) "read" []
    Include.contentOf activate .none
  | v => Include.resolve activate v

def sources : List Value → Build String
  | [] => pure ""
  | item :: rest => do
    let first ← iterating (ρ.source activate item)
    return first ++ "\n" ++ (← sources rest)

def engineName (v : Value) : Build String := do
  match v with
  | .atom (.path p) => return p.lastName
  | v =>
    match ← Build.ofExcept (ρ.ofValue v "name") with
    | .method m first => return Attribute.shownMethod m first ((← get).shown v)
    | .property p => return p.typeName

def shownStyle : Style → String
  | .expanded => "OutputStyle.EXPANDED"
  | .compressed => "OutputStyle.COMPRESSED"

def engineOf (v : Value) : Engine :=
  if !v.isTruthy then Engine.standard
  else {
    name := ρ.engineName v
    compile source style := do
      ρ.ask activate v "compile" [.text source, .text (shownStyle style)]
      return .none }

def css (id : SheetId) (includes compress : Value) (engine : Engine) : Build Value := do
  let document ← render activate id
  let included ← ρ.sources activate (Include.itemsOf includes)
  Compiler.Job.run activate ⟨included ++ document, .none, compress, engine⟩

def perform (id : SheetId) : Call → Build Value
  | .block h body => do
    ρ.headed activate id h body
    return .none
  | .css includes compress engine =>
    ρ.css activate id includes compress (ρ.engineOf activate engine)
  | c => Builder.perform activate id c

def call (w : Spelling) : Build Value := do
  let found ← Build.ofExcept (ρ.ofValue w.target w.name)
  let c ← Build.ofExcept (found.bind w.args w.named)
  ρ.perform activate (← sheetOf w.target) c

def callStep (argument : Value) (on : Receiver) (name : String) (args : List Expr)
    (named : List (String × Expr)) (bind : Option String) : Build Outcome := do
  let target ← receiver argument on
  let _ ← Build.ofExcept (ρ.ofValue target name)
  let args ← evalAll argument args
  let named ← evalNamed argument named
  let result ← ρ.call activate ⟨target, name, args, named⟩
  match bind with
  | none => pure ()
  | some n => bindName n result
  return .returned result

def getStep (argument : Value) (on : Receiver) (name : String) : Build Outcome := do
  let target ← receiver argument on
  match ← Build.ofExcept (ρ.ofValue target name) with
  | .property p => propertyOf (← sheetOf target) p
  | .method m first => return .object (Attribute.shownMethod m first ((← get).shown target))

def cssStep (argument : Value) (on : Receiver) (includes compress : Option Expr) (result : Expr)
    (error : Option Fault) : Build Outcome := do
  let target ← receiver argument on
  let includes ← evalOr argument .none includes
  let compress ← evalOr argument (.bool false) compress
  let engine := Engine.fixed (← eval argument result) error
  match target with
  | .sheet id => do
    let (result, requests) ← withRequests (ρ.css activate id includes compress engine)
    match result with
    | .ok css => return .compiled css requests
    | .error e =>
      if !requests.isEmpty then note (.requested requests)
      throw e
  | .context _ _ => do
    let found ← Build.ofExcept (Attribute.ofContext "to_css")
    let _ ← Build.ofExcept (found.bind [] [(engineParameter, .none)])
    return .returned .none
  | v => throw (.missingAttribute v.fullTypeName "to_css")

mutual

def runStep (argument : Value) : Step → Build Unit
  | .call on name args named bind => noted (ρ.callStep activate argument on name args named bind)
  | .get on name => noted (ρ.getStep argument on name)
  | .css on includes compress result error =>
    noted (ρ.cssStep activate argument on includes compress result error)
  | .attempt steps => do
    match ← Build.outcome (runSteps argument steps) with
    | .ok () => note (.returned .none)
    | .error e => note (.caught e)
  | step => Builder.runStep activate argument step

def runSteps (argument : Value) : List Step → Build Unit
  | [] => pure ()
  | step :: rest => do
    runStep argument step
    runSteps argument rest

end

end

section

variable (ρ : Reading)

def runBodyWithin : Nat → Activation
  | 0, _, _ => throw .tooDeep
  | limit + 1, b, argument => ρ.runSteps (runBodyWithin limit) argument b.steps

def runEach (limit : Nat) : List Step → StateM Studio Unit
  | [] => pure ()
  | step :: rest => do
    let _ ← (ρ.runStep (ρ.runBodyWithin limit) (.sheet Studio.rootSheet) step).run
    runEach limit rest

def runProgram (s : Studio) (body : Option Body) (steps : List Step) : Studio :=
  ((ρ.runEach deepest steps).run (Studio.withRoot s body)).2

end

abbrev standard : Reading := ofTable Vocabulary.standard

theorem ofValue_eq : standard.ofValue = Attribute.ofValue := by
  funext target name
  cases target <;> rfl

section

variable {activate : Activation}

theorem ofSheet_request {request : String} (hf : IsFree request)
    (hp : Vocabulary.propertyName request = request)
    (hw : request ∉ Vocabulary.words ∧ "@" ++ request ∉ Vocabulary.words) :
    standard.ofSheet request = .ok (.method .declare [.text request]) := by
  have hlookup : Vocabulary.lookup request = none :=
    Vocabulary.lookup_eq_none (hp.symm ▸ hw.1) (hp.symm ▸ hw.2)
  have hword : standard.ofSheet request = .ok (Attribute.ofWord request) := hf.ofSheet_eq
  rw [hword, Attribute.ofWord, hlookup, hp]

theorem of_declare_bind {args : List Value} {named : List (String × Value)} {c : Call}
    (h : Method.declare.bind args named = .ok c) : ∃ name value, c = .line (.declare name value) := by
  obtain ⟨values, rest, -, hc⟩ := of_method_bind h
  rcases values with _ | ⟨name, _ | ⟨value, _ | _⟩⟩ <;> cases hc
  exact ⟨name, value, rfl⟩

theorem perform_declaration (id : SheetId) (name value : Value) :
    (do let _ ← Builder.perform activate id (.line (.declare name value)); return) =
      declare activate id name value := by
  simp only [Builder.perform, declare, Line.text, bind_assoc, pure_bind, bind_pure_unit]

theorem ask_eq {request : String}
    (hr : standard.ofSheet request = .ok (.method .declare [.text request])) (target : Value)
    (args : List Value) :
    standard.ask activate target request args = Builder.ask activate target request args := by
  cases target with
  | sheet id =>
    rw [ask, Builder.ask, hr]
    change (Build.ofExcept (Method.declare.bind (.text request :: args) []) >>= _) = _
    rcases hb : Method.declare.bind (.text request :: args) [] with e | c
    · rfl
    · obtain ⟨property, value, rfl⟩ := of_declare_bind hb
      exact perform_declaration id property value
  | _ => rfl

theorem hasMarker_eq (v : Value) : standard.hasMarker activate v = Builder.hasMarker activate v := by
  have hr : standard.ofSheet "startswith" = .ok (.method .declare [.text "startswith"]) :=
    ofSheet_request ⟨rfl, rfl, rfl⟩ (by decide +kernel) (by decide +kernel)
  cases v with
  | sheet id =>
    rw [hasMarker, ask_eq hr]
    rfl
  | _ => rfl

theorem directiveHeading_eq (name : Value) (args : List Value) :
    standard.directiveHeading activate name args = Builder.directiveHeading activate name args := by
  rw [directiveHeading, Builder.directiveHeading, hasMarker_eq]

theorem headed_eq (id : SheetId) (h : Heading) (body : Value) :
    standard.headed activate id h body = Builder.headed activate id h body := by
  cases h with
  | directive name args =>
    simp only [headed, Builder.headed, Heading.worded, Heading.split, Heading.text, directiveHeading_eq,
      bind_assoc, pure_bind]
    rfl
  | _ => rfl

theorem source_eq (v : Value) : standard.source activate v = Include.resolve activate v := by
  have hr : standard.ofSheet "read" = .ok (.method .declare [.text "read"]) :=
    ofSheet_request ⟨rfl, rfl, rfl⟩ (by decide +kernel) (by decide +kernel)
  cases v with
  | sheet id => rw [source, ask_eq hr, Include.resolve]
  | _ => rfl

theorem sources_eq (items : List Value) :
    standard.sources activate items = Include.combine activate items := by
  induction items with
  | nil => rfl
  | cons item rest ih => rw [sources, Include.combine, source_eq, ih]

theorem engineOf_eq (v : Value) : standard.engineOf activate v = Builder.engineOf activate v := by
  have hr : standard.ofSheet "compile" = .ok (.method .declare [.text "compile"]) :=
    ofSheet_request ⟨rfl, rfl, rfl⟩ (by decide +kernel) (by decide +kernel)
  have hname : standard.engineName v = Builder.engineName v := by
    unfold engineName
    rw [ofValue_eq]
    rfl
  have hstyle (source : String) (style : Style) :
      Builder.ask activate v "compile" [.text source, .text (shownStyle style)] =
        Builder.ask activate v "compile" [.text source, .text style.text] := by
    cases v <;> rfl
  rw [engineOf, Builder.engineOf]
  simp only [ask_eq hr, hname, hstyle]

theorem css_eq (id : SheetId) (includes compress : Value) (engine : Engine) :
    standard.css activate id includes compress engine =
      Builder.css activate id includes compress engine := by
  have hnothing : Include.process activate .none = pure "" := rfl
  simp only [css, Builder.css, sources_eq, Compiler.Job.run, Compiler.Job.source, hnothing, pure_bind,
    String.empty_append, bind_assoc]
  rfl

theorem perform_eq (id : SheetId) (c : Call) :
    standard.perform activate id c = Builder.perform activate id c := by
  cases c with
  | block h body => rw [perform, headed_eq, Builder.perform]
  | css includes compress engine => rw [perform, engineOf_eq, css_eq, Builder.perform]
  | _ => rfl

theorem call_eq (w : Spelling) : standard.call activate w = w.run activate := by
  simp only [call, ofValue_eq, perform_eq, Spelling.run, Spelling.operation, bind_assoc, pure_bind]

theorem callStep_eq (argument : Value) (on : Receiver) (name : String) (args : List Expr)
    (named : List (String × Expr)) (bind : Option String) :
    standard.callStep activate argument on name args named bind =
      Builder.callStep activate argument on name args named bind := by
  rw [Builder.callStep_eq]
  simp only [callStep, ofValue_eq, call_eq]
  rfl

theorem getStep_eq (argument : Value) (on : Receiver) (name : String) :
    standard.getStep argument on name = Builder.getStep argument on name := by
  simp only [getStep, ofValue_eq]
  rfl

theorem cssStep_eq (argument : Value) (on : Receiver) (includes compress : Option Expr)
    (result : Expr) (error : Option Fault) :
    standard.cssStep activate argument on includes compress result error =
      Builder.cssStep activate argument on includes compress result error := by
  simp only [cssStep, css_eq]
  rfl

mutual

theorem runStep_eq (argument : Value) : (step : Step) →
    standard.runStep activate argument step = Builder.runStep activate argument step
  | .attempt steps => by
    have houtcome := congrArg Build.outcome (runSteps_eq argument steps)
    rw [runStep, Builder.runStep]
    exact (congrArg (· >>= _) houtcome).trans (bind_congr fun r ↦ by cases r <;> rfl)
  | .call on name args named bind => by rw [runStep, callStep_eq, Builder.runStep]
  | .get on name => by rw [runStep, getStep_eq, Builder.runStep]
  | .css on includes compress result error => by rw [runStep, cssStep_eq, Builder.runStep]
  | .has .. | .text .. | .shown .. | .bind .. | .fail .. | .misuse .. => rfl

theorem runSteps_eq (argument : Value) : (steps : List Step) →
    standard.runSteps activate argument steps = Builder.runSteps activate argument steps
  | [] => rfl
  | step :: rest => by
    rw [runSteps, Builder.runSteps, runStep_eq argument step, runSteps_eq argument rest]

end

end

theorem runBodyWithin_eq (limit : Nat) :
    standard.runBodyWithin limit = Builder.runBodyWithin limit := by
  induction limit with
  | zero => rfl
  | succ limit ih =>
    funext b argument
    rw [runBodyWithin, Builder.runBodyWithin, ih, runSteps_eq]

theorem runEach_eq (limit : Nat) (steps : List Step) :
    standard.runEach limit steps = Builder.runEach limit steps := by
  induction steps with
  | nil => rfl
  | cons step rest ih => rw [runEach, Builder.runEach, runBodyWithin_eq, runStep_eq, ih]

theorem runProgram_eq (s : Studio) (body : Option Body) (steps : List Step) :
    standard.runProgram s body steps = Builder.runProgram s body steps := by
  rw [runProgram, Builder.runProgram, runEach_eq]

end Reading

end Stylesheet.Builder
