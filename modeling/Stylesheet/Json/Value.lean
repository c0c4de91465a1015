import Stylesheet.Json.Printer
import Stylesheet.Fault
import Stylesheet.Value.Key

namespace Stylesheet.Json

def unencodable (v : Value) : Fault :=
  .wrongType ("Object of type " ++ v.typeName ++ " is not JSON serializable")

def nameOf : Value → Except Fault String
  | .atom .none => .ok "null"
  | .atom (.bool b) => .ok (if b then "true" else "false")
  | .atom (.int n) => if Number.isWritable n then .ok (Number.intText n) else .error .unwritable
  | .atom (.float x) => .ok (x.written Number.jsonStyle)
  | .nan _ => .ok Number.jsonStyle.nan
  | .atom (.text s) => .ok s
  | v => .error (.wrongType ("keys must be texts or numbers, not " ++ v.typeName))

mutual

def ofValue : Value → Except Fault Json
  | .atom .none => .ok .null
  | .atom (.bool b) => .ok (.bool b)
  | .atom (.int n) => if Number.isWritable n then .ok (.int n) else .error .unwritable
  | .atom (.float x) => .ok (.decimal (x.written Number.jsonStyle))
  | .nan _ => .ok (.decimal Number.jsonStyle.nan)
  | .atom (.text s) => .ok (.text s)
  | .list items => (ofItems items).map .array
  | .tuple items => (ofItems items).map .array
  | .dict entries => (ofEntries entries).map .object
  | v => .error (unencodable v)

def ofItems : List Value → Except Fault (List Json)
  | [] => .ok []
  | item :: rest =>
    match ofValue item with
    | .error e => .error e
    | .ok j => (ofItems rest).map (j :: ·)

def ofEntries : List (Value × Value) → Except Fault (List (String × Json))
  | [] => .ok []
  | (key, item) :: rest =>
    match nameOf key, ofValue item with
    | .error e, _ => .error e
    | .ok _, .error e => .error e
    | .ok name, .ok j => (ofEntries rest).map ((name, j) :: ·)

end

end Stylesheet.Json
