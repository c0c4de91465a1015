import Stylesheet.Value.Key
import Stylesheet.Fault

namespace Stylesheet.Value

/-- The items of a collection. A dictionary has its keys, a text its characters, bytes their
values. -/
def items? : Value → Option (List Value)
  | .list items => some items
  | .tuple items => some items
  | .dict entries => some (entries.map (·.1))
  | .set members => some members
  | .atom (.text s) => some (s.toList.map fun c ↦ .text (String.singleton c))
  | .atom (.bytes b) => some (b.toList.map fun x ↦ .int x.toNat)
  | _ => Option.none

def size? : Value → Option Nat
  | .atom (.text s) => some s.length
  | .atom (.bytes b) => some b.size
  | .list items => some items.length
  | .tuple items => some items.length
  | .dict entries => some entries.length
  | .set members => some members.length
  | _ => Option.none

def notSized (v : Value) : Fault :=
  .wrongType ("object of type " ++ Text.quoted v.fullTypeName ++ " has no len()")

def notIterable (v : Value) : Fault :=
  .wrongType (Text.quoted v.fullTypeName ++ " object is not iterable")

def setEntries (entries added : List (Value × Value)) : List (Value × Value) :=
  added.foldl (fun entries (key, item) ↦ setEntry entries key item) entries

end Stylesheet.Value
