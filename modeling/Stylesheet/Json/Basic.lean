namespace Stylesheet

inductive Json where
  | null
  | bool (b : Bool)
  | int (n : Int)
  | decimal (numeral : String)
  | text (s : String)
  | array (items : List Json)
  | object (members : List (String × Json))
deriving Inhabited

namespace Json

def members : Json → List (String × Json)
  | .object members => members
  | _ => []

def items : Json → List Json
  | .array items => items
  | _ => []

/-- The member of a name; the last one, should the name be repeated. -/
def get? (j : Json) (name : String) : Option Json :=
  (j.members.reverse.find? fun m ↦ m.1 == name).map (·.2)

def text? : Json → Option String
  | .text s => some s
  | _ => none

def int? : Json → Option Int
  | .int n => some n
  | _ => none

def isTruthy : Json → Bool
  | .null => false
  | .bool b => b
  | .int n => n != 0
  | .decimal _ => true
  | .text s => s != ""
  | .array items => !items.isEmpty
  | .object members => !members.isEmpty

end Json

end Stylesheet
