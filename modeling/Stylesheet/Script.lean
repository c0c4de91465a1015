import Stylesheet.Builder.Run
import Stylesheet.Files.Text
import Stylesheet.Json.Reader
import Stylesheet.Program.Decode

namespace Stylesheet

/-- What a script gives a name: a value, or the decorator that makes a sheet of what it is given. -/
inductive Definition (α : Type) where
  | value (v : α)
  | decorator
deriving Inhabited

/-- Definitions in order, and the error that ends the script behind them, if one does. -/
structure Script where
  definitions : List (String × Definition Expr) := []
  failure : Option Fault := none
deriving Inhabited

namespace Script

/-- A definition has two forms that are none elsewhere: the decorator, and what it makes of steps. -/
def decodeDefinition : Json → Program.Numbered (Definition Expr)
  | .object [("$decorator", _)] => return .decorator
  | .object [("$decorated", steps)] => return .value (.sheet (some (← Program.steps steps)))
  | j => return .value (← Program.expr j)

def decodeDefinitions : List Json → Program.Numbered (List (String × Definition Expr))
  | [] => pure []
  | .array [.text name, j] :: rest => do
    let d ← decodeDefinition j
    return (name, d) :: (← decodeDefinitions rest)
  | _ :: rest => decodeDefinitions rest

def ofJson (j : Json) : Script where
  definitions := ((decodeDefinitions ((j.get? "defs").getD .null).items).run 0).1
  failure := (j.get? "raise").bind Program.errorOf?

def ofText (text : String) : Script :=
  match (Json.parse? text).bind fun j ↦ j.get? "script" with
  | some j => ofJson j
  | none => {}

def entryName : String := "stylesheet"

abbrev Module := Table String (Definition Value)

/-- Evaluates the definitions in order; a later one of the same name replaces an earlier one. -/
def evalDefinitions (done : Module) : List (String × Definition Expr) → Build Module
  | [] => pure done
  | (name, d) :: rest => do
    let meaning ← match d with
      | .value x => pure (.value (← Builder.eval .none x))
      | .decorator => pure .decorator
    evalDefinitions (done.set name meaning) rest

def run (s : Script) : Build Module := do
  let defined ← evalDefinitions [] s.definitions
  match s.failure with
  | none => return defined
  | some error => throw error

/-- What a script defines. An error of the script is given as the reason why it cannot be loaded. -/
def definitionsOf (path : String) : Build Module := do
  let text := (← get).files.readText path
  match ← Build.outcome (do (ofText (← Build.ofExcept text)).run) with
  | .ok defined => return defined
  | .error f => throw (if f.isError then .unloadable path (f.className ++ ": " ++ f.text) else f)

/-- Names that every script knows by itself and that take a sheet, with which they do nothing. -/
def idleNames : List String :=
  ["__eq__", "__ge__", "__gt__", "__le__", "__lt__", "__ne__", "__subclasshook__"]

/-- Names that every script knows by itself, and that can be called but not with a sheet. -/
def unfitNames : List String :=
  ["__class__", "__delattr__", "__dir__", "__format__", "__getattribute__", "__getstate__",
    "__hash__", "__init__", "__init_subclass__", "__new__", "__reduce__", "__reduce_ex__",
    "__repr__", "__setattr__", "__sizeof__", "__str__"]

def plainNames : List String :=
  ["__annotations__", "__builtins__", "__cached__", "__dict__", "__doc__", "__file__", "__loader__",
    "__name__", "__package__", "__spec__"]

def fixedNames : List String := ["__class__", "__dict__"]

def fallbackName : String := "__getattr__"

def unfitBody (name : String) : Body := { steps := [.misuse (name ++ " takes no sheet")] }

def ownBody? (name : String) : Option Body :=
  if idleNames.contains name then some { steps := [] }
  else if unfitNames.contains name then some (unfitBody name)
  else none

def notFound (path entry : String) : Fault :=
  .unloadable path ("no callable or Renderer named '" ++ entry ++ "'")

def sheetOfBody (path entry : String) (b : Body) : Build SheetId := do
  Build.log "script" ("Using body function " ++ entry ++ " from " ++ path)
  Build.newSheet (some b)

/-- The sheet for a name that the script does not know. The fallback is asked for it, and finds
nothing; but the decorator as a fallback makes a sheet of the name. -/
def askFallback (path entry : String) : Option (Definition Value) → Build SheetId
  | none => throw (notFound path entry)
  | some .decorator => do
    Build.log "script" ("Using Renderer " ++ entry ++ " from " ++ path)
    Build.newSheet (some (unfitBody entry))
  | some (.value (.body _ b)) => do
    match ← Build.outcome (Builder.activate b (.text entry)) with
    | .ok () => throw (notFound path entry)
    | .error f => throw (if f.kind = "AttributeError" then notFound path entry else f)
  | some (.value v) => throw (.notCallable v.fullTypeName)

/-- The sheet that a name stands for: a sheet itself, or a new one with the given body. -/
def sheetOf (path entry : String) (defined : Module) : Build SheetId := do
  match if fixedNames.contains entry then none else defined.get? entry with
  | some (.value (.sheet id)) => do
    Build.log "script" ("Using Renderer " ++ entry ++ " from " ++ path)
    return id
  | some (.value (.body _ b)) => sheetOfBody path entry b
  | some (.value _) => throw (notFound path entry)
  | some .decorator =>
    throw (.unloadable path ("'" ++ entry ++ "' is the imported decorator, not a stylesheet"))
  | none =>
    match ownBody? entry with
    | some b => sheetOfBody path entry b
    | none =>
      if plainNames.contains entry then throw (notFound path entry)
      else askFallback path entry (defined.get? fallbackName)

def isScriptName (path : String) : Bool := path.endsWith ".py"

def load (path : Path) (entry : String) : Build SheetId := do
  let text := path.toString
  match (← get).files.seek text with
  | .error trouble => throw (.files trouble text)
  | .ok (some (.file _)) =>
    if !isScriptName text then throw (.unloadable text "not an importable Python file")
    let defined ← definitionsOf text
    sheetOf text entry defined
  | .ok _ => throw (.unloadable text "file not found")

end Script

end Stylesheet
