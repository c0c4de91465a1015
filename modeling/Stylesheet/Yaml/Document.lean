import Stylesheet.Value.Key
import Stylesheet.Yaml.Constant
import Stylesheet.Yaml.Node

namespace Stylesheet.Yaml

/-- The value of a document; what lies too deep in it, or inside itself, is left out. -/
structure Document where
  value : Value := .none
  isEndless : Bool := false
deriving Inhabited

namespace Document

/-- What has been found out about a document: the first of its outermost faults with its level, and
whether something was left out. -/
structure Findings where
  fault : Option (Nat × Fault) := none
  isEndless : Bool := false

abbrev Building := StateM Findings

def report (level : Nat) (f : Fault) : Building Unit := modify fun s ↦
  if s.fault.any fun (least, _) ↦ least ≤ level then s else { s with fault := some (level, f) }

def faulty (level : Nat) (f : Fault) : Building Value := do
  report level f
  return .none

def misshapen (level : Nat) : Building Value := do
  report level .malformedYaml
  return .list []

def leftOut : Building Value := do
  modify fun s ↦ { s with isEndless := true }
  return .list []

variable (anchors : Array (Option Node))

def target (anchor : Nat) : Node := (anchors.getD anchor none).getD .empty

def resolved : Node → Node
  | .alias anchor => target anchors anchor
  | n => n

def hasTag (tag : Tag) (n : Node) : Bool :=
  match resolved anchors n with
  | .scalar t _ | .sequence t _ | .mapping t _ => t == tag
  | .alias _ => false

def scalarText : (fuel : Nat) → Node → Except Fault String
  | _, .scalar _ text => .ok text
  | 0, _ => .error .tooDeep
  | fuel + 1, .mapping _ entries =>
    match entries.find? fun (key, _) ↦ hasTag anchors .value key with
    | some (_, item) => scalarText fuel (resolved anchors item)
    | none => .error .malformedYaml
  | _, _ => .error .malformedYaml

/-- The entries of a mapping itself. The mark of an entry that can stand for all of it is a key like
others. -/
def ownEntries (entries : List (Node × Node)) : List (Node × Node) :=
  (entries.filter fun (key, _) ↦ !hasTag anchors .merge key).map fun (key, item) ↦
    match resolved anchors key with
    | .scalar .value text => (.scalar .text text, item)
    | _ => (key, item)

/-- The entries of a mapping behind those that it merges. Of several merged ones the last come first.
`inside` are the anchors through whose aliases the mapping is reached. -/
def flatten (level : Nat) : (fuel : Nat) → (inside : List Nat) → List (Node × Node) →
    Building (List (Node × Node))
  | 0, _, _ => return []
  | fuel + 1, inside, entries => do
    let mergedMapping (n : Node) : Building (List (Node × Node)) :=
      match n, resolved anchors n with
      | .alias anchor, .mapping _ inner =>
        if inside.contains anchor then return ownEntries anchors inner
        else flatten level fuel (anchor :: inside) inner
      | _, .mapping _ inner => flatten level fuel inside inner
      | _, _ => do
        report level .malformedYaml
        return []
    let merged ← (entries.filter fun (key, _) ↦ hasTag anchors .merge key).mapM fun (_, item) ↦ do
      match resolved anchors item with
      | .sequence _ items => return (← items.mapM mergedMapping).reverse.flatten
      | _ => mergedMapping item
    return merged.flatten ++ ownEntries anchors entries

def scalar (level : Nat) (tag : Tag) (text : String) : Building Value :=
  match Constant.ofTag tag text with
  | .ok v => return v
  | .error f => faulty level f

/-- The value of a node that stands inside so many collections and inside aliases of such anchors. -/
def build : (fuel level : Nat) → (inside : List Nat) → Node → Building Value
  | 0, _, _, _ => leftOut
  | fuel + 1, level, inside, n => do
    let inner := level + 1
    let child (n : Node) : Building Value :=
      match n with
      | .alias anchor =>
        if inside.contains anchor then leftOut
        else build fuel inner (anchor :: inside) (target anchors anchor)
      | n => build fuel inner inside n
    let entries (nodes : List (Node × Node)) : Building (List (Value × Value)) := do
      (← flatten anchors inner (fuel + 1) inside nodes).foldlM (fun entries (key, item) ↦ do
        let key ← child key
        if key.growing?.isSome then report inner .malformedYaml
        return Value.setEntry entries key (← child item)) []
    let pair (n : Node) : Building Value := do
      match resolved anchors n with
      | .mapping _ [(key, item)] => return .tuple [← child key, ← child item]
      | _ => misshapen inner
    match n with
    | .scalar tag text =>
      if [Tag.orderedMap, .pairs, .set, .sequence, .mapping].contains tag then
        misshapen inner
      else scalar level tag text
    | .sequence tag items =>
      match tag with
      | .sequence => return .list (← items.mapM child)
      | .orderedMap | .pairs => return .list (← items.mapM pair)
      | .set | .mapping => misshapen inner
      | _ => faulty level .malformedYaml
    | .mapping tag nodes =>
      match tag with
      | .mapping => return .dict (← entries nodes)
      | .set => return .set ((← entries nodes).map (·.1))
      | .orderedMap | .pairs | .sequence => misshapen inner
      | _ =>
        match scalarText anchors (fuel + 1) n with
        | .ok text => scalar level tag text
        | .error f => faulty level f
    | .alias _ => leftOut

end Document

/-- The only document of a text. An empty text has one of nothing. Each of its levels takes a
character, and an alias is not followed inside itself. -/
def document (text : Text.Pieces) : Except Fault Document := do
  let (n, anchors) ← root text
  let fuel := (anchors.size + 1) * (text.size + 2)
  let (value, findings) := (Document.build anchors fuel 0 [] (n.getD .empty)).run {}
  match findings.fault with
  | some (_, f) => throw f
  | none => return { value, isEndless := findings.isEndless }

end Stylesheet.Yaml
