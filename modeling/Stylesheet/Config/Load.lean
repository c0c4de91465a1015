import Stylesheet.Config.Basic
import Stylesheet.Config.Reference
import Stylesheet.Number.Numeral
import Stylesheet.Value.Key

namespace Stylesheet.Config

def notFinite : Number.Binary64 → Fault
  | .nan => .wrongValue "cannot convert float NaN to integer"
  | _ => .overflow "cannot convert float infinity to integer"

/-- The integer that a value stands for: texts are read, and fractions are cut off. -/
def integer : Value → Except Fault Int
  | .atom (.int n) => .ok n
  | .atom (.bool b) => .ok (if b then 1 else 0)
  | .atom (.float x) =>
    match x.truncate? with
    | some n => .ok n
    | none => .error (notFinite x)
  | .nan _ => .error (notFinite .nan)
  | .atom (.text s) => ofNumeral (Text.quoted s) s
  | .atom (.bytes b) =>
    let shown := Text.quotedBytes b
    if b.toList.all fun x ↦ x < 0x80 then
      ofNumeral shown (String.ofList (b.toList.map fun x ↦ Char.ofNat x.toNat))
    else .error (.badLiteral 10 shown)
  | v => .error (.wrongType ("int() argument must be a string, a bytes-like object or a real " ++
      "number, not " ++ Text.quoted v.fullTypeName))
where
  ofNumeral (shown s : String) : Except Fault Int :=
    (Number.integer s).mapError (Fault.ofRefusal shown)

/-- What a value says that is asked for an entry and a default. A sheet takes it for a declaration of
too many parts. -/
def noEntries : Value → Fault
  | .sheet _ => .wrongType "Renderer.declare() takes 3 positional arguments but 4 were given"
  | v => .missingAttribute v.fullTypeName "get"

def entriesAt (data : List (Value × Value)) (key : String) :
    Except Fault (List (Value × Value)) :=
  match (Value.entry? data key).getD .none with
  | .dict entries => .ok entries
  | v => if v.isTruthy then .error (noEntries v) else .ok []

def compileSettings (entries : List (Value × Value)) : Except Fault CompileSettings :=
  if entries.isEmpty then .ok {}
  else do
    let value (key : String) (default : Value) := (Value.entry? entries key).getD default
    let compress := (value "compress" (.bool false)).isTruthy
    let includes := (value "include" .none).orElse (.list [])
    let includePaths := (value "include_paths" .none).orElse (.list [])
    let precision ← integer (value "precision" (.int 5))
    CompileSettings.make (.bool compress) includes includePaths (.int precision)

/-- The configuration that a dictionary describes, after its references are replaced. A sheet in the
place of the dictionary says nothing. -/
def ofValue (env : Environment) (data : Value) : Except Fault Config := do
  match ← env.expand data with
  | .dict data =>
    let output ← entriesAt data "output"
    let compile ← compileSettings (← entriesAt data "compile")
    return { outputPath := (Value.entry? output "path").getD .none, compile }
  | .sheet _ => return {}
  | v => throw (.missingAttribute v.fullTypeName "get")

end Stylesheet.Config
