import Stylesheet.Program
import Stylesheet.Timestamp

namespace Stylesheet

abbrev SheetId := Nat

abbrev StreamId := Nat

/-- Tells a value apart from others that look the same. -/
abbrev Identity := Nat

/-- `nan` is a float that is no number; unlike that of an atom it has an identity. -/
inductive Value where
  | atom (a : Atom)
  | nan (id : Identity)
  | timestamp (t : Timestamp)
  | list (items : List Value)
  | tuple (items : List Value)
  | dict (entries : List (Value × Value))
  | set (members : List Value)
  | body (id : Identity) (b : Body)
  | sheet (id : SheetId)
  | context (id : Identity) (sheet : SheetId)
  | textStream (id : StreamId)
  | byteStream (id : StreamId)
  | reader (id : Identity) (content : Value)
deriving Inhabited

namespace Value

abbrev none : Value := .atom .none
abbrev bool (b : Bool) : Value := .atom (.bool b)
abbrev int (n : Int) : Value := .atom (.int n)
abbrev text (s : String) : Value := .atom (.text s)

def isNone : Value → Bool
  | .atom .none => true
  | _ => false

def isBody : Value → Bool
  | .body _ _ => true
  | _ => false

def isDict : Value → Bool
  | .dict _ => true
  | _ => false

def isList : Value → Bool
  | .list _ => true
  | _ => false

def float? : Value → Option Number.Binary64
  | .atom (.float x) => some x
  | .nan _ => some .nan
  | _ => Option.none

def typeName : Value → String
  | .atom .none => "NoneType"
  | .atom (.bool _) => "bool"
  | .atom (.int _) => "int"
  | .atom (.float _) => "float"
  | .atom (.text _) => "str"
  | .atom (.bytes _) => "bytes"
  | .atom (.path _) => "PosixPath"
  | .nan _ => "float"
  | .timestamp t => t.typeName
  | .list _ => "list"
  | .tuple _ => "tuple"
  | .dict _ => "dict"
  | .set _ => "set"
  | .body _ _ => "function"
  | .sheet _ => "Renderer"
  | .context _ _ => "SelectorContext"
  | .textStream _ => "StringIO"
  | .byteStream _ => "BytesIO"
  | .reader _ _ => "Reader"

def fullTypeName (v : Value) : String :=
  match v with
  | .timestamp t => "datetime." ++ t.typeName
  | .textStream _ => "_io.StringIO"
  | .byteStream _ => "_io.BytesIO"
  | v => v.typeName

/-- Empty texts and collections, zeros, `false` and nothing count as no. -/
def isTruthy : Value → Bool
  | .atom .none => false
  | .atom (.bool b) => b
  | .atom (.int n) => n != 0
  | .atom (.float x) => !x.isZero
  | .atom (.text s) => s != ""
  | .atom (.bytes b) => b.size != 0
  | .list items => !items.isEmpty
  | .tuple items => !items.isEmpty
  | .dict entries => !entries.isEmpty
  | .set members => !members.isEmpty
  | _ => true

def orElse (v default : Value) : Value := if v.isTruthy then v else default

end Value

end Stylesheet
