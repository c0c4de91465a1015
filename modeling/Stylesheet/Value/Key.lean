import Stylesheet.Fault
import Stylesheet.Value

namespace Stylesheet.Value

def numeral? : Value → Option Int
  | .atom (.int n) => some n
  | .atom (.bool b) => some (if b then 1 else 0)
  | _ => Option.none

mutual

/-- Collections that can grow are no keys; this is the first one in a value. -/
def growing? : Value → Option Value
  | .list items => some (.list items)
  | .dict entries => some (.dict entries)
  | .set members => some (.set members)
  | .tuple items => firstGrowing? items
  | _ => Option.none

def firstGrowing? : List Value → Option Value
  | [] => Option.none
  | item :: rest => (growing? item).or (firstGrowing? rest)

end

def checkKey (v : Value) : Except Fault Unit :=
  match v.growing? with
  | Option.none => .ok ()
  | some stray => .error (.wrongType ("unhashable type: " ++ Text.quoted stray.typeName))

/-- Numbers of equal value are one key whatever their type. The float that is no number is one key
with itself. -/
def sameAtom : Atom → Atom → Bool
  | .none, .none => true
  | .text s, .text t => s == t
  | .bytes b, .bytes c => b == c
  | .path p, .path q => p == q
  | .float x, .float y => x.numEq y || (x == .nan && y == .nan)
  | .float x, a =>
    match numeral? (.atom a) with
    | some n => x.equalsInt n
    | Option.none => false
  | a, .float x =>
    match numeral? (.atom a) with
    | some n => x.equalsInt n
    | Option.none => false
  | a, b =>
    match numeral? (.atom a), numeral? (.atom b) with
    | some m, some n => m == n
    | _, _ => false

mutual

/-- Values with an identity are the same key only as themselves. -/
def sameKey : Value → Value → Bool
  | .atom a, .atom b => sameAtom a b
  | .timestamp s, .timestamp t => s == t
  | .tuple xs, .tuple ys => sameKeys xs ys
  | .nan i, .nan j => i == j
  | .body i _, .body j _ => i == j
  | .sheet i, .sheet j => i == j
  | .context i _, .context j _ => i == j
  | .textStream i, .textStream j => i == j
  | .byteStream i, .byteStream j => i == j
  | .reader i _, .reader j _ => i == j
  | _, _ => false

def sameKeys : List Value → List Value → Bool
  | [], [] => true
  | x :: xs, y :: ys => sameKey x y && sameKeys xs ys
  | _, _ => false

end

/-- The last value of a repeated key stands at the place of the first. -/
def setEntry : List (Value × Value) → Value → Value → List (Value × Value)
  | [], key, item => [(key, item)]
  | (k, old) :: rest, key, item =>
    if k.sameKey key then (k, item) :: rest else (k, old) :: setEntry rest key item

def entry? (entries : List (Value × Value)) (key : String) : Option Value :=
  (entries.find? fun (k, _) ↦ k.sameKey (.text key)).map (·.2)

end Stylesheet.Value
