import Stylesheet.Yaml.Layout
import Stylesheet.Yaml.Plain

namespace Stylesheet.Yaml

/-- An alias stands for the node with the anchor of its number. -/
inductive Node where
  | scalar (tag : Tag) (text : String)
  | sequence (tag : Tag) (items : List Node)
  | mapping (tag : Tag) (entries : List (Node × Node))
  | alias (anchor : Nat)
deriving Inhabited

namespace Node

def empty : Node := .scalar .null ""

/-- The tokens that are left, the fault behind them, and what the nodes before them have set. -/
structure Source where
  tokens : List Token
  fault : Option Fault
  /-- What the handles of tags stand for. -/
  handles : Table String String := []
  /-- The nodes of anchors; none while a node is being read. -/
  anchors : Table String (Option Node) := []
deriving Inhabited

abbrev Reading := StateT Source (Except Fault)

def peek : Reading (Option Token) := do
  let s ← get
  match s.tokens, s.fault with
  | t :: _, _ => return some t
  | [], none => return none
  | [], some f => throw f

def advance : Reading Unit := modify fun s ↦ { s with tokens := s.tokens.tail }

def accept (t : Token) : Reading Bool := do
  let isNext := (← peek) == some t
  if isNext then advance
  return isNext

def require (t : Token) : Reading Unit := do
  if !(← accept t) then throw .malformedYaml

def optional (ends : List Token) (read : Reading Node) : Reading Node := do
  if (← peek).any ends.contains then return empty else read

def behindColon (ends : List Token) (read : Reading Node) : Reading Node := do
  if ← accept .value then optional ends read else return empty

def anchor? : Reading (Option String) := do
  match ← peek with
  | some (.anchor name) => do
    advance
    return some name
  | _ => return none

def fullName (name : TagName) : Reading String := do
  match name.handle with
  | none => return name.rest
  | some handle =>
    match (← get).handles.get? handle with
    | some front => return front ++ name.rest
    | none => throw .malformedYaml

def tag? : Reading (Option TagName) := do
  match ← peek with
  | some (.tag name) => do
    advance
    return some name
  | _ => return none

def properties : Reading (Option String × Option String) := do
  let early ← anchor?
  let name ← tag?
  let anchor ← if early.isNone && name.isSome then anchor? else pure early
  return (anchor, ← name.mapM fullName)

def openName : String := "!"

def collectionTag (default : Tag) (name : Option String) : Tag :=
  match name with
  | none => default
  | some name => if name = openName then default else .ofUri name

def scalarTag (isPlain : Bool) (text : String) (name : Option String) : Tag :=
  match name with
  | none => if isPlain then .ofPlain text else .text
  | some name => if name = openName then .ofPlain text else .ofUri name

/-- A node with its anchor, which aliases inside of it may name. An anchor is set once. -/
def anchored (name : Option String) (read : Reading Node) : Reading Node := do
  match name with
  | none => read
  | some name =>
    if ((← get).anchors.get? name).isSome then throw .malformedYaml
    modify fun s ↦ { s with anchors := s.anchors.set name none }
    let n ← read
    modify fun s ↦ { s with anchors := s.anchors.set name (some n) }
    return n

def mappingEnds : List Token := [.key, .value, .blockEnd]

mutual

def node (isBlock isBehindKey : Bool) : (fuel : Nat) → Reading Node
  | 0 => throw .malformedYaml
  | fuel + 1 => do
    match ← peek with
    | some (.alias name) =>
      advance
      match (← get).anchors.keys.findIdx? (· == name) with
      | some anchor => return .alias anchor
      | none => throw .malformedYaml
    | _ =>
      let (anchor, name) ← properties
      anchored anchor (content isBlock isBehindKey (anchor.isSome || name.isSome) name fuel)
termination_by structural fuel => fuel

/-- What stands behind the properties of a node. Blocks are allowed outside brackets only. Behind a
key a sequence may stand at the column of the key, and behind a property nothing need stand. -/
def content (isBlock isBehindKey hasProperty : Bool) (name : Option String) :
    (fuel : Nat) → Reading Node
  | 0 => throw .malformedYaml
  | fuel + 1 => do
    let items (read : Reading (List Node)) : Reading Node :=
      return .sequence (collectionTag .sequence name) (← read)
    let entries (read : Reading (List (Node × Node))) : Reading Node :=
      return .mapping (collectionTag .mapping name) (← read)
    let leftOut : Reading Node :=
      if hasProperty then return .scalar (scalarTag true "" name) "" else throw .malformedYaml
    match ← peek with
    | some (.scalar isPlain text) =>
      advance
      return .scalar (scalarTag isPlain text name) text
    | some .openSequence =>
      advance
      items (bracketItems true fuel)
    | some .openMapping =>
      advance
      entries (bracketEntries true fuel)
    | some .entry => if isBehindKey then items (itemsBehindKey fuel) else leftOut
    | some .blockSequence =>
      if isBlock then
        advance
        items (blockItems fuel)
      else leftOut
    | some .blockMapping =>
      if isBlock then
        advance
        entries (blockEntries fuel)
      else leftOut
    | _ => leftOut
termination_by structural fuel => fuel

def blockItems : (fuel : Nat) → Reading (List Node)
  | 0 => throw .malformedYaml
  | fuel + 1 => do
    if ← accept .entry then
      let item ← optional [.entry, .blockEnd] (node true false fuel)
      return item :: (← blockItems fuel)
    else
      require .blockEnd
      return []
termination_by structural fuel => fuel

def itemsBehindKey : (fuel : Nat) → Reading (List Node)
  | 0 => throw .malformedYaml
  | fuel + 1 => do
    if ← accept .entry then
      let item ← optional (.entry :: mappingEnds) (node true false fuel)
      return item :: (← itemsBehindKey fuel)
    else return []
termination_by structural fuel => fuel

def blockEntries : (fuel : Nat) → Reading (List (Node × Node))
  | 0 => throw .malformedYaml
  | fuel + 1 => do
    if ← accept .key then
      let key ← optional mappingEnds (node true true fuel)
      let item ← behindColon mappingEnds (node true true fuel)
      return (key, item) :: (← blockEntries fuel)
    else
      require .blockEnd
      return []
termination_by structural fuel => fuel

def bracketItems (isFirst : Bool) : (fuel : Nat) → Reading (List Node)
  | 0 => throw .malformedYaml
  | fuel + 1 => do
    if ← accept .closeSequence then return []
    if !isFirst then require .comma
    if ← accept .closeSequence then return []
    let item ← if ← accept .key then do
        let ends := [.comma, .closeSequence]
        let key ← optional (.value :: ends) (node false false fuel)
        let item ← behindColon ends (node false false fuel)
        pure (.mapping .mapping [(key, item)])
      else node false false fuel
    return item :: (← bracketItems false fuel)
termination_by structural fuel => fuel

/-- The entries up to a closing bracket. A key without a colon has nothing behind it. -/
def bracketEntries (isFirst : Bool) : (fuel : Nat) → Reading (List (Node × Node))
  | 0 => throw .malformedYaml
  | fuel + 1 => do
    if ← accept .closeMapping then return []
    if !isFirst then require .comma
    if ← accept .closeMapping then return []
    let ends := [.comma, .closeMapping]
    let entry ← if ← accept .key then do
        let key ← optional (.value :: ends) (node false false fuel)
        let item ← behindColon ends (node false false fuel)
        pure (key, item)
      else do
        pure (← node false false fuel, empty)
    return entry :: (← bracketEntries false fuel)
termination_by structural fuel => fuel

end

def standardHandles : Table String String := [("!", "!"), ("!!", Tag.front)]

def directives : (fuel : Nat) → (hasVersion : Bool) → Reading Unit
  | 0, _ => throw .malformedYaml
  | fuel + 1, hasVersion => do
    match ← peek with
    | some (.directive d) =>
      advance
      match d with
      | .version major =>
        if hasVersion || major != 1 then throw .malformedYaml
        directives fuel true
      | .handle name uri =>
        if ((← get).handles.get? name).isSome then throw .malformedYaml
        modify fun s ↦ { s with handles := s.handles.set name uri }
        directives fuel hasVersion
      | .other => directives fuel hasVersion
    | _ => pure ()

def isApart : Token → Bool
  | .directive _ | .documentStart | .documentEnd => true
  | _ => false

def explicitDocument (fuel : Nat) : Reading Node := do
  directives fuel false
  require .documentStart
  modify fun s ↦ { s with handles := s.handles ++ standardHandles }
  if (← peek).all isApart then return empty else node true false fuel

def document (fuel : Nat) : Reading (Option Node) := do
  match ← peek with
  | none => return none
  | some t =>
    let n ← if t matches .directive _ | .documentStart then explicitDocument fuel else do
      modify fun s ↦ { s with handles := standardHandles }
      node true false fuel
    modify fun s ↦ { s with tokens := s.tokens.dropWhile (· == .documentEnd) }
    if (← peek).isSome then
      directives fuel false
      let _ ← peek
      throw .malformedYaml
    return some n

end Node

/-- The root of the only document of a text, if it has one, and the nodes with anchors in order. -/
def root (text : Text.Pieces) : Except Fault (Option Node × Array (Option Node)) := do
  let (tokens, fault) := tokens (start text)
  let (n, source) ← (Node.document (4 * tokens.length + 4)).run { tokens, fault }
  return (n, (source.anchors.map (·.2)).toArray)

end Stylesheet.Yaml
