import Stylesheet.Yaml.Scalar

namespace Stylesheet.Yaml.Block

/-- What becomes of the line ends behind a block: one stays, none, or all. -/
inductive Chomping where
  | clip
  | strip
  | keep
deriving DecidableEq, Inhabited

def Chomping.ofSign : Char → Chomping
  | '-' => .strip
  | '+' => .keep
  | _ => .clip

def header (cs : List Char) : Chomping × Option Nat × Nat :=
  let isSign (c : Char) : Bool := c == '-' || c == '+'
  match cs with
  | a :: b :: _ =>
    if isSign a && b.isDigit then (.ofSign a, some (digitOf b), 2)
    else if a.isDigit && isSign b then (.ofSign b, some (digitOf a), 2)
    else one a
  | [a] => one a
  | [] => (.clip, none, 0)
where
  one (a : Char) : Chomping × Option Nat × Nat :=
    if a == '-' || a == '+' then (.ofSign a, none, 1)
    else if a.isDigit then (.clip, some (digitOf a), 1)
    else (.clip, none, 0)

/-- Past empty lines and up to `limit` spaces of the line after them: the line ends, and the greatest
column on the way. -/
def gap (limit : Nat) (c : Cursor) : List Char × Nat × Cursor := go c.rest c
where
  go : List Char → Cursor → List Char × Nat × Cursor
    | [], c => ([], c.column, c)
    | ch :: rest, c =>
      if isBreak ch then
        let (breaks, deepest, next) := go rest c.step
        (breakChar ch :: breaks, max deepest c.column, next)
      else if ch == ' ' && c.column < limit then go rest c.step
      else ([], c.column, c)

def isIndented (cs : List Char) : Bool := (cs.head?.map isBlank).getD false

/-- The lines at the given column: the text without its last line end, that line end, the line ends of
the empty lines behind it, and the place after them. -/
def lines (folds : Bool) (column : Nat) : (fuel : Nat) → (done breaks : List Char) → Cursor →
    List Char × List Char × List Char × Cursor
  | 0, done, breaks, c => (done, [], breaks, c)
  | fuel + 1, done, breaks, c =>
    if c.column != column || c.rest.isEmpty then (done, [], breaks, c)
    else
      let (line, behind) := c.run fun ch ↦ !isBreak ch
      let done := done ++ breaks ++ line
      let (lineEnd, next) := behind.lineEnd
      let (breaks, _, next) := gap column next
      if next.column != column || next.rest.isEmpty then (done, lineEnd, breaks, next)
      else if folds && lineEnd == ['\n'] && !isIndented line && !isIndented next.rest then
        lines folds column fuel (done ++ if breaks.isEmpty then [' '] else []) breaks next
      else lines folds column fuel (done ++ lineEnd) breaks next

/-- The text of the block whose mark stands here, and the place after it. The lines stand at column
`least` or later; the first one with content sets the column unless a digit in the header does. -/
def read (least : Nat) (c : Cursor) : Except Fault (String × Cursor) := do
  let (chomping, width, length) := header (c.rest.drop 1)
  let behind := c.forward (1 + length)
  if width == some 0 || !isWordEnd behind.rest then throw .malformedYaml
  let first ← behind.pastIdleLine
  let least := max least 1
  let limit := match width with
    | some n => least + n - 1
    | none => first.column + first.rest.length
  let (breaks, deepest, next) := gap limit first
  let column := if width.isSome then limit else max least deepest
  let (done, lineEnd, breaks, next) :=
    lines (c.rest.head? == some '>') column (first.rest.length + 1) [] breaks next
  let chars := match chomping with
    | .clip => done ++ lineEnd
    | .strip => done
    | .keep => done ++ lineEnd ++ breaks
  return (String.ofList chars, next)

end Stylesheet.Yaml.Block
