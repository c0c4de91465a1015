import Stylesheet.Fault
import Stylesheet.Vocabulary.Words

namespace Stylesheet.Vocabulary

def marker : Char := '@'

inductive Kind where
  | declaration
  | directive
deriving DecidableEq, Inhabited

def Kind.text : Kind → String
  | .declaration => "declaration"
  | .directive => "directive"

def Kind.ofText? : String → Option Kind
  | "declaration" => some .declaration
  | "directive" => some .directive
  | _ => none

structure Entry where
  name : String
  kind : Kind
deriving DecidableEq, Inhabited

def startsWithMarker (name : String) : Bool := name.toList.head? == some marker

def withoutMarker (name : String) : String :=
  if startsWithMarker name then String.ofList name.toList.tail else name

/-- The method name of a word: without its marker, with underscores for hyphens. -/
def methodName (name : String) : String := Text.replaceChar '-' '_' (withoutMarker name)

def propertyName (method : String) : String := Text.replaceChar '_' '-' method

namespace Entry

def ofWord (name : String) : Entry :=
  ⟨name, if startsWithMarker name then .directive else .declaration⟩

def methodName (e : Entry) : String := Vocabulary.methodName e.name

def isDirective (e : Entry) : Bool := e.kind == .directive

def shown (e : Entry) : String :=
  let constant := match e.kind with
    | .declaration => "DECLARATION"
    | .directive => "DIRECTIVE"
  "Property(name=" ++ Text.quoted e.name ++ ", kind=<PropertyKind." ++ constant ++ ": " ++
    Text.quoted e.kind.text ++ ">)"

end Entry

def extend (table : Table String Entry) (name : String) : Except Fault (Table String Entry) :=
  let entry := Entry.ofWord name
  match table.get? entry.methodName with
  | some earlier => .error (.duplicateWord entry.methodName earlier.name name)
  | none => .ok (table ++ [(entry.methodName, entry)])

def buildFrom (table : Table String Entry) : List String → Except Fault (Table String Entry)
  | [] => .ok table
  | name :: rest =>
    match extend table name with
    | .ok table => buildFrom table rest
    | .error e => .error e

def build (names : List String) : Except Fault (Table String Entry) := buildFrom [] names

def standard : Table String Entry := words.map fun name ↦ (methodName name, Entry.ofWord name)

def lookup (method : String) : Option Entry := standard.get? method

end Stylesheet.Vocabulary
