import Stylesheet.Compiler.Adapter
import Stylesheet.Json.Value

namespace Stylesheet.Preflight

/-- What was checked, whether it is there, and whether builds need it. The last two are told by what
counts as yes. -/
structure Check where
  name : Value
  available : Value
  version : Value := .none
  required : Value := .bool true
  path : Value := .none
  message : Value := .text ""
deriving Inhabited

namespace Check

def isAvailable (c : Check) : Bool := c.available.isTruthy

def isRequired (c : Check) : Bool := c.required.isTruthy

def entries (c : Check) : List (Value × Value) :=
  [(.text "name", c.name), (.text "available", c.available), (.text "version", c.version),
    (.text "required", c.required), (.text "path", c.path), (.text "message", c.message)]

def ofNamed (named : Table String Value) : Except Fault Check :=
  let known := ["name", "available", "version", "required", "path", "message"]
  match named.get? "name", named.get? "available" with
  | some name, some available =>
    if named.keys.all known.contains then
      let value (name : String) (default : Value) := (named.get? name).getD default
      .ok { name, available, version := value "version" .none,
            required := value "required" (.bool true), path := value "path" .none,
            message := value "message" (.text "") }
    else .error (.wrongType "unexpected keyword argument")
  | _, _ => .error (.wrongType "missing required argument")

end Check

/-- Checks in order, with a message for each that failed: errors for what is required, warnings for
what is optional. -/
structure Report where
  success : Bool := true
  checks : List Check := []
  errors : List String := []
  warnings : List String := []
deriving Inhabited

namespace Report

def add (r : Report) (c : Check) : Report :=
  let r := { r with checks := r.checks ++ [c] }
  if c.isAvailable then r
  else if c.isRequired then
    { r with success := false,
             errors := r.errors ++ ["Required dependency not found: " ++ c.name.plain] }
  else { r with warnings := r.warnings ++ ["Optional dependency not found: " ++ c.name.plain] }

def ofChecks (checks : List Check) : Report := checks.foldl add {}

def addNamed (activate : Body → Value → Build Unit) (r : Report) (c : Check) : Build Report := do
  if !c.isAvailable then
    let _ ← Builder.text activate c.name
  return r.add c

end Report

def Report.toValue (r : Report) : Value :=
  .dict [(.text "success", .bool r.success),
    (.text "checks", .list (r.checks.map fun c ↦ .dict c.entries)),
    (.text "errors", .list (r.errors.map .text)),
    (.text "warnings", .list (r.warnings.map .text))]

def Report.json (r : Report) : Except Fault Json := Json.ofValue r.toValue

def checkCompiler (required : Value) : Build Check := do
  let compiler := (← get).compiler
  let check : Check := { name := .text Adapter.name, available := .bool false, required }
  if compiler.isMissing then
    return { check with message := .text "Install with: pip install libsass" }
  else if ← Adapter.isAvailable then
    let (version, _) ← ({} : Adapter).version
    return { check with available := .bool true, version, path := compiler.origin,
                        message := .text "Sass compilation engine" }
  else
    return { check with path := compiler.origin,
                        message := .text "libsass is installed but failed to compile a test rule" }

def run : Build Report := return Report.ofChecks [← checkCompiler (.bool true)]

def Report.text (r : Report) : String :=
  let lines := r.checks.flatMap fun c ↦
    let version := if c.version.isTruthy then " (" ++ c.version.plain ++ ")" else ""
    ("  [" ++ (if c.isAvailable then "OK " else "MISSING") ++ "] " ++ c.name.plain ++ version) ::
      (if c.message.isTruthy then ["     - " ++ c.message.plain] else [])
  let verdict := if r.success then "All preflight checks passed" else "Preflight check FAILED"
  String.join (("\nPreflight Check Results\n" :: lines ++ ["", verdict]).map (· ++ "\n"))

def Report.shown (r : Report) (json : Bool) : Except Fault String :=
  if json then r.json.map fun j ↦ j.toLines ++ "\n"
  else if r.checks.all fun c ↦ Value.areAllWritable [c.name, c.version, c.message] then .ok r.text
  else .error .unwritable

end Stylesheet.Preflight
