import Stylesheet.Fault
import Stylesheet.Text.Pieces

namespace Stylesheet.Yaml

/-- Characters that may not occur in a text, inside comments included. -/
def isForbidden (c : Char) : Bool :=
  let n := c.toNat
  (n < 0x20 && n != 0x09 && n != 0x0A && n != 0x0D) || (0x7F ≤ n && n < 0xA0 && n != 0x85) ||
    n == 0xFFFE || n == 0xFFFF

def byteOrderMark : Char := '\ufeff'

def isBreak (c : Char) : Bool :=
  c == '\n' || c == '\u0085' || c == '\u2028' || c == '\u2029'

def breakChar (c : Char) : Char := if c = '\u0085' then '\n' else c

def isBlank (c : Char) : Bool := c == ' ' || c == '\t'

def isLineEnd : List Char → Bool
  | [] => true
  | c :: _ => isBreak c

def isWordEnd : List Char → Bool
  | [] => true
  | c :: _ => c == ' ' || isBreak c

def isGap : List Char → Bool
  | [] => true
  | c :: _ => isBlank c || isBreak c

def isMarker (mark : Char) : List Char → Bool
  | a :: b :: c :: rest => a == mark && b == mark && c == mark && isGap rest
  | _ => false

def isBoundary (cs : List Char) : Bool := isMarker '-' cs || isMarker '.' cs

structure Cursor where
  rest : List Char
  /-- What is wrong behind the characters that can be read. -/
  trouble : Option Fault := none
  index : Nat := 0
  line : Nat := 0
  column : Nat := 0
deriving Inhabited

namespace Cursor

/-- Goes on by one character. A byte order mark takes no column. -/
def step (c : Cursor) : Cursor :=
  match c.rest with
  | [] => c
  | ch :: rest =>
    if isBreak ch then { c with rest, index := c.index + 1, line := c.line + 1, column := 0 }
    else { c with rest, index := c.index + 1,
                  column := if ch = byteOrderMark then c.column else c.column + 1 }

/-- What is wrong where something does not fit: itself, or what is wrong behind the end. -/
def misfit (c : Cursor) : Fault :=
  if c.rest.isEmpty then c.trouble.getD .malformedYaml else .malformedYaml

def forward (c : Cursor) : Nat → Cursor
  | 0 => c
  | n + 1 => c.step.forward n

def run (c : Cursor) (p : Char → Bool) : List Char × Cursor :=
  let cs := c.rest.takeWhile p
  (cs, c.forward cs.length)

def skip (c : Cursor) (p : Char → Bool) : Cursor := (c.run p).2

def lineEnd (c : Cursor) : List Char × Cursor :=
  match c.rest with
  | [] => ([], c)
  | ch :: _ => if isBreak ch then ([breakChar ch], c.step) else ([], c)

def pastIdleLine (c : Cursor) : Except Fault Cursor :=
  let c := c.skip (· == ' ')
  let c := if c.rest.head? == some '#' then c.skip fun ch ↦ !isBreak ch else c
  if isLineEnd c.rest then .ok c.lineEnd.2 else .error c.misfit

def atBoundary (c : Cursor) : Bool := c.column == 0 && isBoundary c.rest

def toToken (c : Cursor) : Cursor := go false c.rest c
where
  go (inComment : Bool) : List Char → Cursor → Cursor
    | [], c => c
    | ch :: rest, c =>
      if isBreak ch then go false rest c.step
      else if inComment || ch == ' ' then go inComment rest c.step
      else if ch == '#' then go true rest c.step
      else c

def pastLines (p : Char → Bool) (c : Cursor) : List Char × Cursor := go c.rest c
where
  go : List Char → Cursor → List Char × Cursor
    | [], c => ([], c)
    | ch :: rest, c =>
      if isBreak ch then
        let (breaks, next) := go rest c.step
        (breakChar ch :: breaks, next)
      else if p ch then go rest c.step
      else ([], c)

end Cursor

/-- The characters of pieces in front of the first piece with a forbidden one, or with a flaw. -/
def readable (flaw : Option Text.Flaw) : List (List Char) → List Char × Option Fault
  | [] => ([], flaw.map .undecodable)
  | piece :: more =>
    if piece.any isForbidden then ([], some .malformedYaml)
    else
      let (rest, trouble) := readable flaw more
      (piece ++ rest, trouble)

/-- The place at the front of a text, past a byte order mark. The first two pieces are read at once, so
that a flaw behind the first one keeps it from being read. -/
def start (text : Text.Pieces) : Cursor :=
  let (rest, trouble) := match text.pieces, text.flaw with
    | first :: second :: more, flaw => readable flaw ((first ++ second) :: more)
    | [only], none => readable none [only]
    | [_], some flaw => ([], some (.undecodable flaw))
    | [], flaw => readable flaw []
  let c : Cursor := { rest, trouble }
  if rest.head? == some byteOrderMark then c.step else c

end Stylesheet.Yaml
