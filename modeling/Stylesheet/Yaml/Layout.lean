import Stylesheet.Yaml.Block
import Stylesheet.Yaml.Property

namespace Stylesheet.Yaml

/-- A place where a key may turn out to have started. -/
structure PossibleKey where
  /-- How many tokens stand before it. -/
  number : Nat
  /-- Whether nothing but a key can stand here. -/
  isRequired : Bool
  start : Cursor
deriving Inhabited

structure Layout where
  cursor : Cursor
  /-- The newest one comes first. -/
  tokens : List Token := []
  /-- The columns of the open blocks, the innermost one first. -/
  indents : List Nat := []
  allowsKey : Bool := true
  /-- The possible key in the innermost brackets, or outside of all. -/
  key : Option PossibleKey := none
  /-- Those around the innermost brackets, from inside to outside. -/
  outerKeys : List (Option PossibleKey) := []
  isFinished : Bool := false
deriving Inhabited

namespace Layout

def inBrackets (l : Layout) : Bool := !l.outerKeys.isEmpty

def add (l : Layout) (t : Token) : Layout := { l with tokens := t :: l.tokens }

def insert (l : Layout) (number : Nat) (t : Token) : Layout :=
  let behind := l.tokens.length - number
  { l with tokens := l.tokens.take behind ++ t :: l.tokens.drop behind }

def step (l : Layout) : Layout := { l with cursor := l.cursor.step }

def unwound (l : Layout) (least : Nat) : Layout :=
  if l.inBrackets then l
  else
    let ended := (l.indents.takeWhile (least ≤ ·)).length
    { l with indents := l.indents.drop ended, tokens := List.replicate ended .blockEnd ++ l.tokens }

def opensAt (l : Layout) (column : Nat) : Bool := l.indents.all (· < column)

/-- Outside brackets, the mark of an entry or a key starts a block unless one of its column is open.
It may only stand where a key may. -/
def openedBy (l : Layout) (t : Token) : Except Fault Layout :=
  let column := l.cursor.column
  if l.inBrackets then .ok l
  else if !l.allowsKey then .error .malformedYaml
  else if l.opensAt column then .ok { l.add t with indents := column :: l.indents }
  else .ok l

/-- The greatest distance between the start of a key and its colon. -/
def longestKey : Nat := 1024

def isStale (c : Cursor) (k : PossibleKey) : Bool :=
  k.start.line != c.line || longestKey < c.index - k.start.index

def givenUp (c : Cursor) (isOver : Cursor → PossibleKey → Bool) :
    Option PossibleKey → Except Fault (Option PossibleKey)
  | none => .ok none
  | some k =>
    if !isOver c k then .ok (some k)
    else if k.isRequired then .error .malformedYaml
    else .ok none

def withoutStale (l : Layout) : Except Fault Layout := do
  let key ← givenUp l.cursor isStale l.key
  let outerKeys ← l.outerKeys.mapM (givenUp l.cursor isStale)
  return { l with key, outerKeys }

def withoutKey (l : Layout) : Except Fault Layout :=
  (givenUp l.cursor (fun _ _ ↦ true) l.key).map fun key ↦ { l with key }

def withKey (l : Layout) : Except Fault Layout := do
  if !l.allowsKey then return l
  let isRequired := !l.inBrackets && l.indents.head? == some l.cursor.column
  return { ← l.withoutKey with key := some ⟨l.tokens.length, isRequired, l.cursor⟩ }

def finish (l : Layout) : Except Fault Layout := do
  return { ← (l.unwound 0).withoutKey with isFinished := true }

def apart (l : Layout) (read : Cursor → Except Fault (Token × Cursor)) : Except Fault Layout := do
  let l ← (l.unwound 0).withoutKey
  let (t, cursor) ← read l.cursor
  return { l.add t with cursor, allowsKey := false }

def marker (l : Layout) (t : Token) : Except Fault Layout := l.apart fun c ↦ .ok (t, c.forward 3)

def opening (l : Layout) (t : Token) : Except Fault Layout := do
  let l ← l.withKey
  return { l.step.add t with key := none, outerKeys := l.key :: l.outerKeys, allowsKey := true }

def closing (l : Layout) (t : Token) : Except Fault Layout := do
  let l ← l.withoutKey
  let key := l.outerKeys.headD none
  return { l.step.add t with key, outerKeys := l.outerKeys.tail, allowsKey := false }

def comma (l : Layout) : Except Fault Layout := do
  return { (← l.withoutKey).step.add .comma with allowsKey := true }

def entry (l : Layout) : Except Fault Layout := do
  let l ← (← l.openedBy .blockSequence).withoutKey
  return { l.step.add .entry with allowsKey := true }

def explicitKey (l : Layout) : Except Fault Layout := do
  let l ← (← l.openedBy .blockMapping).withoutKey
  return { l.step.add .key with allowsKey := !l.inBrackets }

/-- A colon. It turns the possible key before it into a key, which may start a mapping. -/
def colon (l : Layout) : Except Fault Layout := do
  match l.key with
  | some k =>
    let column := k.start.column
    let l := { l.insert k.number .key with key := none, allowsKey := false }
    let l := if l.inBrackets || !l.opensAt column then l
      else { l.insert k.number .blockMapping with indents := column :: l.indents }
    return l.step.add .value
  | none =>
    let l ← l.openedBy .blockMapping
    return { l.step.add .value with allowsKey := !l.inBrackets }

def simple (l : Layout) (read : Cursor → Except Fault (Token × Cursor)) : Except Fault Layout := do
  let l ← l.withKey
  let (t, cursor) ← read l.cursor
  return { l.add t with cursor, allowsKey := false }

def leastColumn (l : Layout) : Nat := (l.indents.head?.map (· + 1)).getD 0

def plainScalar (l : Layout) : Except Fault Layout := do
  let (text, allowsKey, cursor) := plain l.inBrackets l.leastColumn l.cursor
  return { (← l.withKey).add (.scalar true text) with cursor, allowsKey }

def quotedScalar (l : Layout) (quote : Char) : Except Fault Layout :=
  l.simple fun c ↦ (quoted quote c).map fun (text, next) ↦ (.scalar false text, next)

def blockScalar (l : Layout) : Except Fault Layout := do
  let l ← l.withoutKey
  let (text, cursor) ← Block.read l.leastColumn l.cursor
  return { l.add (.scalar false text) with cursor, allowsKey := true }

def token (l : Layout) : Except Fault Layout :=
  let c := l.cursor
  match c.rest with
  | [] => l.finish
  | ch :: rest =>
    if c.column == 0 && ch == '%' then
      l.apart fun c ↦ (directive c).map fun (d, next) ↦ (.directive d, next)
    else if c.column == 0 && isMarker '-' c.rest then l.marker .documentStart
    else if c.column == 0 && isMarker '.' c.rest then l.marker .documentEnd
    else if ch == '[' then l.opening .openSequence
    else if ch == '\x7b' then l.opening .openMapping
    else if ch == ']' then l.closing .closeSequence
    else if ch == '\x7d' then l.closing .closeMapping
    else if ch == ',' then l.comma
    else if ch == '-' && isGap rest then l.entry
    else if ch == '?' && (l.inBrackets || isGap rest) then l.explicitKey
    else if ch == ':' && (l.inBrackets || isGap rest) then l.colon
    else if ch == '*' then l.simple fun c ↦ (anchorName c).map fun (n, next) ↦ (.alias n, next)
    else if ch == '&' then l.simple fun c ↦ (anchorName c).map fun (n, next) ↦ (.anchor n, next)
    else if ch == '!' then l.simple fun c ↦ (tagName c).map fun (n, next) ↦ (.tag n, next)
    else if (ch == '|' || ch == '>') && !l.inBrackets then l.blockScalar
    else if ch == '\x27' || ch == '"' then l.quotedScalar ch
    else if startsPlain l.inBrackets c.rest then l.plainScalar
    else .error .malformedYaml

/-- Goes on to the next token and reads it. A line end outside brackets allows a key. -/
def next (l : Layout) : Except Fault Layout := do
  let cursor := l.cursor.toToken
  let allowsKey := l.allowsKey || (!l.inBrackets && l.cursor.line != cursor.line)
  let l ← { l with cursor, allowsKey }.withoutStale
  ended (← (l.unwound (cursor.column + 1)).token)
where
  /-- What is wrong behind the end keeps the last token from being told. -/
  ended (l : Layout) : Except Fault Layout :=
    match l.cursor.rest, l.cursor.trouble with
    | [], some f => .error f
    | _, _ => .ok l

/-- The tokens that do not depend on what follows: those in front of all possible keys. -/
def settled (l : Layout) : List Token :=
  let tokens := l.tokens.reverse
  match (l.key :: l.outerKeys).reverse.findSome? id with
  | some k => tokens.take k.number
  | none => tokens

def run : (fuel : Nat) → Layout → List Token × Option Fault
  | 0, l => (l.tokens.reverse, none)
  | fuel + 1, l =>
    match l.withoutStale with
    | .error f => (l.settled, some f)
    | .ok l =>
      match l.next with
      | .error f => (l.settled, some f)
      | .ok l => if l.isFinished then (l.tokens.reverse, none) else run fuel l

end Layout

def tokens (c : Cursor) : List Token × Option Fault := Layout.run (c.rest.length + 2) { cursor := c }

end Stylesheet.Yaml
