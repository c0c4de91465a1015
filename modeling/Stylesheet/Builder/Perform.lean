import Stylesheet.Compiler.Job

namespace Stylesheet.Builder

variable (activate : Body → Value → Build Unit)

/-- Takes a body at the end of the arguments for the body of the call, if none is given, and refuses
bodies elsewhere among them. -/
def splitBody (args : List Value) (body : Value) : Build (List Value × Value) := do
  let last := args.getLastD .none
  let (args, body) := if body.isNone && last.isBody then (args.dropLast, last) else (args, body)
  match args.find? Value.isBody with
  | some stray => throw (.misplacedBody ((← get).shown stray))
  | none => return (args, body)

def assign (id : SheetId) (name value : Value) : Build String := do
  let token := "$" ++ (← text activate name)
  let shown ← text activate value
  write id (.assignment · name token shown)
  let key ← text activate name
  Build.updateSheet id fun s ↦ s.assign key token
  return token

/-- Whether a directive's name has its marker. What is no text is asked, and does not say so. -/
def hasMarker : Value → Build Bool
  | .atom (.text s) => pure (Vocabulary.startsWithMarker s)
  | .atom (.bytes _) =>
    throw (.wrongType "startswith first arg must be bytes or a tuple of bytes, not str")
  | v => do
    ask activate v "startswith" [.text "@"]
    return false

def directiveHeading (name : Value) (args : List Value) : Build String := do
  let marked ← hasMarker activate name
  let shown ← text activate name
  let name := if marked then shown else "@" ++ shown
  return Text.join " " (name :: (← texts activate args))

def callableHeading (keyword : String) (name : Value) (params : List Value) : Build String := do
  let shown ← text activate name
  return keyword ++ " " ++ shown ++ (← arguments activate params)

def listText : Value → Build String
  | .atom (.text s) => pure s
  | v => do return Text.join ", " (← texts activate (← items v))

def Line.text : Line → Build String
  | .declare name value => declaration activate name value
  | .includeMixin name args => do
    let shown ← Builder.text activate name
    return "@include " ++ shown ++ (← arguments activate args) ++ ";"
  | .importFile path => do return "@import '" ++ (← Builder.text activate path) ++ "';"
  | .extend selector => do return "@extend " ++ (← Builder.text activate selector) ++ ";"
  | .returnValue value => do return "@return " ++ (← Builder.text activate value) ++ ";"

namespace Heading

def split (h : Heading) (body : Value) : Build (Heading × Value) := do
  match h with
  | .directive name args =>
    let (args, body) ← splitBody args body
    return (.directive name args, body)
  | .media queries =>
    let (args, body) ← splitBody queries body
    return (.directive (.text "@media") args, body)
  | .keyframes name =>
    let (args, body) ← splitBody [name] body
    return (.directive (.text "@keyframes") args, body)
  | .mixin name params =>
    let (params, body) ← splitBody params body
    return (.mixin name params, body)
  | .function name params =>
    let (params, body) ← splitBody params body
    return (.function name params, body)
  | h => return (h, body)

def text : Heading → Build String
  | .rule selector => Builder.text activate selector
  | .ruleWithContext selector => Builder.text activate selector
  | .pseudo name => do return "&:" ++ (← Builder.text activate name)
  | .directive name args => directiveHeading activate name args
  | .media queries => directiveHeading activate (.text "@media") queries
  | .keyframes name => directiveHeading activate (.text "@keyframes") [name]
  | .mixin name params => callableHeading activate "@mixin" name params
  | .function name params => callableHeading activate "@function" name params
  | .ifBlock condition => do return "@if " ++ (← Builder.text activate condition)
  | .elseIfBlock condition => do return "@else if " ++ (← Builder.text activate condition)
  | .elseBlock => pure "@else"
  | .forLoop counter start stop => do
    let counter ← Builder.text activate counter
    let start ← Builder.text activate start
    let stop ← Builder.text activate stop
    return "@for $" ++ counter ++ " from " ++ start ++ " through " ++ stop
  | .eachLoop counter list => do
    let shown ← listText activate list
    let counter ← Builder.text activate counter
    return "@each $" ++ counter ++ " in " ++ shown
  | .whileLoop condition => do return "@while " ++ (← Builder.text activate condition)

def worded (h : Heading) (body : Value) : Build (String × Heading × Value) := do
  let (h, body) ← h.split body
  return (← h.text activate, h, body)

def runBody (id : SheetId) (body : Value) : Heading → Build Unit
  | .ruleWithContext _ => do
    if !body.isNone then Builder.runBody activate body (← Build.newContext id)
  | _ => Builder.runBody activate body (.sheet id)

end Heading

def headed (id : SheetId) (h : Heading) (body : Value) : Build Unit := do
  let (opening, h, body) ← h.worded activate body
  block id opening (h.runBody activate id body)

def engineName (v : Value) : Build String := do
  match v with
  | .atom (.path p) => return p.lastName
  | v =>
    match ← Build.ofExcept (Attribute.ofValue v "name") with
    | .method m first => return Attribute.shownMethod m first ((← get).shown v)
    | .property p => return p.typeName

/-- The engine that a value is taken for. Nothing, and what is empty, is the standard one. No other
value compiles. -/
def engineOf (v : Value) : Engine :=
  if !v.isTruthy then Engine.standard
  else {
    name := engineName v
    compile source style := do
      ask activate v "compile" [.text source, .text style.text]
      return .none }

def css (id : SheetId) (includes compress : Value) (engine : Engine) : Build Value := do
  let document ← render activate id
  Compiler.Job.run activate ⟨document, includes, compress, engine⟩

def perform (id : SheetId) : Call → Build Value
  | .line l => do
    writeLine id (← l.text activate)
    return .none
  | .assign name value => return .text (← assign activate id name value)
  | .raw chunk => do
    checkWritable id
    let shown ← text activate chunk
    Build.updateSheet id fun s ↦ s.append (.raw shown)
    return .none
  | .block h body => do
    headed activate id h body
    return .none
  | .text => return .text (← render activate id)
  | .css includes compress engine =>
    css activate id includes compress (engineOf activate engine)

end Stylesheet.Builder
