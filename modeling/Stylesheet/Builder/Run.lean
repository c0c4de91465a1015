import Stylesheet.Builder.Perform
import Stylesheet.Value.Known

namespace Stylesheet.Builder

def addEntry (entries : List (Value × Value)) (key item : Value) :
    Build (List (Value × Value)) := do
  Build.ofExcept key.checkKey
  return Value.setEntry entries key item

mutual

/-- The value of an expression. All that has an identity is new at each evaluation. -/
def eval (argument : Value) : Expr → Build Value
  | .atom (.float .nan) => do return .nan (← Build.newIdentity)
  | .atom a => pure (.atom a)
  | .list xs => do return .list (← evalAll argument xs)
  | .tuple xs => do return .tuple (← evalAll argument xs)
  | .dict entries => do return .dict (← evalEntries argument [] entries)
  | .body name steps => do return .body (← Build.newIdentity) ⟨name, steps⟩
  | .sheet none => do return .sheet (← Build.newSheet none)
  | .sheet (some steps) => do return .sheet (← Build.newSheet (some ⟨none, steps⟩))
  | .textStream s => do return .textStream (← Build.newStream (.text s))
  | .byteStream b => do return .byteStream (← Build.newStream (.bytes b))
  | .reader content => do
    let content ← eval argument content
    return .reader (← Build.newIdentity) content
  | .name n => do
    match (← get).names.get? n with
    | some v => return v
    | none => throw (.unboundName n)
  | .root => pure (.sheet Studio.rootSheet)
  | .argument => pure argument
  | .malformed f => throw f

def evalAll (argument : Value) : List Expr → Build (List Value)
  | [] => pure []
  | x :: rest => do
    let first ← eval argument x
    return first :: (← evalAll argument rest)

def evalEntries (argument : Value) (done : List (Value × Value)) :
    List (Expr × Expr) → Build (List (Value × Value))
  | [] => pure done
  | (key, item) :: rest => do
    let key ← eval argument key
    let item ← eval argument item
    evalEntries argument (← addEntry done key item) rest

end

def evalNamed (argument : Value) : List (String × Expr) → Build (List (String × Value))
  | [] => pure []
  | (name, x) :: rest => do
    let first ← eval argument x
    return (name, first) :: (← evalNamed argument rest)

def evalOr (argument default : Value) : Option Expr → Build Value
  | none => pure default
  | some x => eval argument x

def receiver (argument : Value) : Receiver → Build Value
  | .argument => pure argument
  | .root => pure (.sheet Studio.rootSheet)
  | .context => Build.newContext Studio.rootSheet
  | .named n => eval argument (.name n)

def sheetOf : Value → Build SheetId
  | .sheet id => pure id
  | .context _ id => pure id
  | v => throw (.wrongType v.typeName)

def hasAttribute (target : Value) (name : String) : Bool :=
  match target with
  | .sheet _ => Attribute.isOnSheet name
  | .context _ _ => Attribute.isOnContext name
  | v => v.knows name

def propertyOf (id : SheetId) (p : Property) : Build Outcome := do
  let sheet ← Build.sheet id
  match p with
  | .indentation => return .returned (.int sheet.indentation)
  | .tokens =>
    return .returned (.dict (sheet.tokens.map fun (name, token) ↦ (.text name, .text token)))
  | .isFinished => return .returned (.bool sheet.isFinished)
  | .sheet => return .object sheet.shown

def bindName (name : String) (v : Value) : Build Unit :=
  modify fun s ↦ { s with names := s.names.set name v }

/-- Fails, unless the step has failed as often as it may. -/
def failStep (label : Nat) (error : Fault) (times : Option Nat) : Build Unit := do
  let count := ((← get).failures.get? label).getD 0
  let isOver := match times with
    | none => false
    | some limit => limit ≤ count
  if !isOver then
    modify fun s ↦ { s with failures := s.failures.set label (count + 1) }
    throw error

def withRequests {α : Type} (m : Build α) : Build (Except Fault α × List Request) := do
  let outer := (← get).requests
  modify fun s ↦ { s with requests := [] }
  let result ← Build.outcome m
  let requests := (← get).requests
  modify fun s ↦ { s with requests := outer }
  return (result, requests)

def note (o : Outcome) : Build Unit := modify fun s ↦ s.note o

def noted (m : Build Outcome) : Build Unit := do
  match ← Build.outcome m with
  | .ok o => note o
  | .error e =>
    note (.failed e)
    throw e

/-- The operation that a name and arguments stand for, with the sheet that it is one of. -/
def resolve (argument : Value) (on : Receiver) (name : String) (args : List Expr)
    (named : List (String × Expr)) : Build (SheetId × Call) := do
  let target ← receiver argument on
  let found ← Build.ofExcept (Attribute.ofValue target name)
  let args ← evalAll argument args
  let named ← evalNamed argument named
  let call ← Build.ofExcept (found.bind args named)
  return (← sheetOf target, call)

section

variable (activate : Body → Value → Build Unit)

def callStep (argument : Value) (on : Receiver) (name : String) (args : List Expr)
    (named : List (String × Expr)) (bind : Option String) : Build Outcome := do
  let (id, call) ← resolve argument on name args named
  let result ← perform activate id call
  match bind with
  | none => pure ()
  | some n => bindName n result
  return .returned result

def getStep (argument : Value) (on : Receiver) (name : String) : Build Outcome := do
  let target ← receiver argument on
  match ← Build.ofExcept (Attribute.ofValue target name) with
  | .property p => propertyOf (← sheetOf target) p
  | .method m first => return .object (Attribute.shownMethod m first ((← get).shown target))

def engineParameter : String := "engine"

/-- Compiles the receiver's document with a recording engine. Requests made before a failure have an
entry of their own. A selector context has no document: it takes the request for a block, which no
engine fits. -/
def cssStep (argument : Value) (on : Receiver) (includes compress : Option Expr) (result : Expr)
    (error : Option Fault) : Build Outcome := do
  let target ← receiver argument on
  let includes ← evalOr argument .none includes
  let compress ← evalOr argument (.bool false) compress
  let engine := Engine.fixed (← eval argument result) error
  match target with
  | .sheet id => do
    let (result, requests) ← withRequests (css activate id includes compress engine)
    match result with
    | .ok css => return .compiled css requests
    | .error e =>
      if !requests.isEmpty then note (.requested requests)
      throw e
  | .context _ _ => do
    let found ← Build.ofExcept (Attribute.ofContext "to_css")
    let _ ← Build.ofExcept (found.bind [] [(engineParameter, .none)])
    return .returned .none
  | v => throw (.missingAttribute v.fullTypeName "to_css")

mutual

def runStep (argument : Value) : Step → Build Unit
  | .call on name args named bind => noted (callStep activate argument on name args named bind)
  | .get on name => noted (getStep argument on name)
  | .has on name => noted do
    return .returned (.bool (hasAttribute (← receiver argument on) name))
  | .text on => noted do return .returned (.text (← text activate (← receiver argument on)))
  | .shown on => noted do
    let target ← receiver argument on
    return .returned (.text (← Build.shown target))
  | .bind name value => noted do
    bindName name (← eval argument value)
    return .returned .none
  | .fail label error times => noted do
    failStep label error times
    return .returned .none
  | .misuse text => noted (throw (.wrongType text))
  | .attempt steps => do
    match ← Build.outcome (runSteps argument steps) with
    | .ok () => note (.returned .none)
    | .error e => note (.caught e)
  | .css on includes compress result error =>
    noted (cssStep activate argument on includes compress result error)

def runSteps (argument : Value) : List Step → Build Unit
  | [] => pure ()
  | step :: rest => do
    runStep argument step
    runSteps argument rest

end

end

def runBodyWithin : Nat → Body → Value → Build Unit
  | 0, _, _ => throw .tooDeep
  | limit + 1, b, argument => runSteps (runBodyWithin limit) argument b.steps

def deepest : Nat := 10000

def activate : Body → Value → Build Unit := runBodyWithin deepest

def runEach (limit : Nat) : List Step → StateM Studio Unit
  | [] => pure ()
  | step :: rest => do
    let _ ← (runStep (runBodyWithin limit) (.sheet Studio.rootSheet) step).run
    runEach limit rest

def Studio.withRoot (s : Studio) (body : Option Body) : Studio := { s with sheets := [{ body }] }

def runProgram (s : Studio) (body : Option Body) (steps : List Step) : Studio :=
  ((runEach deepest steps).run (Studio.withRoot s body)).2

end Stylesheet.Builder
