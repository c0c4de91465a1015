import Stylesheet.Yaml.Cursor

namespace Stylesheet.Yaml

/-- What the line ends inside a scalar become: a single one is a space, and further ones stay. Line
ends other than the usual one stay as they are. -/
def folded : List Char → List Char
  | [] => []
  | b :: breaks => if b != '\n' then b :: breaks else if breaks.isEmpty then [' '] else breaks

def bracketMarks : List Char := [',', '[', ']', '\x7b', '\x7d']

def special : List Char := "-?:,[]\x7b\x7d#&*!|>\x27\"%@\x60".toList

def startsPlain (inBrackets : Bool) : List Char → Bool
  | [] => false
  | c :: rest =>
    !(special.contains c || isBlank c || isBreak c) || (c == '-' && !isGap rest) ||
      (!inBrackets && (c == '?' || c == ':') && !isGap rest)

def endsPlain (inBrackets : Bool) : List Char → Bool
  | [] => true
  | ':' :: rest =>
    isGap rest || (inBrackets && (rest.head?.map bracketMarks.contains).getD false)
  | c :: rest =>
    isGap (c :: rest) || (inBrackets && (c == '?' || bracketMarks.contains c))

def plainRun (inBrackets : Bool) : List Char → List Char
  | [] => []
  | c :: rest => if endsPlain inBrackets (c :: rest) then [] else c :: plainRun inBrackets rest

/-- The gap behind a run of a plain scalar; it is empty where the scalar cannot go on. -/
def plainGap (c : Cursor) : List Char × Cursor :=
  let (spaces, next) := c.run (· == ' ')
  if next.rest.isEmpty || !isLineEnd next.rest then (spaces, next)
  else
    let (breaks, next) := next.pastLines (· == ' ')
    (if next.atBoundary then [] else folded breaks, next)

/-- The text of a plain scalar from its end on, the place where its last run ends, and the place after
the gap behind that. Outside brackets every line starts at column `least` or later. -/
def plainRuns (inBrackets : Bool) (least : Nat) :
    (fuel : Nat) → (done gap : List Char) → Cursor → List Char × Cursor × Cursor
  | 0, done, _, c => (done, c, c)
  | fuel + 1, done, gap, c =>
    match plainRun inBrackets c.rest with
    | [] => (done, c, c)
    | run =>
      let done := run.reverse ++ (gap.reverse ++ done)
      let last := c.forward run.length
      let (gap, next) := plainGap last
      if gap.isEmpty || next.rest.head? == some '#' || (!inBrackets && next.column < least) ||
        (plainRun inBrackets next.rest).isEmpty
      then (done, last, next)
      else plainRuns inBrackets least fuel done gap next

def plain (inBrackets : Bool) (least : Nat) (c : Cursor) : String × Bool × Cursor :=
  let (chars, last, next) := plainRuns inBrackets least (c.rest.length + 1) [] [] c
  (String.ofList chars.reverse, last.line != next.line, next)

def quotedLines (c : Cursor) : Except Fault (List Char × Cursor) :=
  let (breaks, next) := c.pastLines isBlank
  if next.atBoundary then .error .malformedYaml else .ok (breaks, next)

/-- Blanks inside quotes stay unless a line ends behind them. -/
def quotedGap (c : Cursor) : Except Fault (List Char × Cursor) :=
  let (blanks, next) := c.run isBlank
  if isLineEnd next.rest then (quotedLines next).map fun (breaks, next) ↦ (folded breaks, next)
  else .ok (blanks, next)

def escapes : Table Char Char :=
  [('0', '\x00'), ('a', '\x07'), ('b', '\x08'), ('t', '\t'), ('\t', '\t'), ('n', '\n'),
    ('v', '\x0b'), ('f', '\x0c'), ('r', '\r'), ('e', '\x1b'), (' ', ' '), ('"', '"'),
    ('\\', '\\'), ('/', '/'), ('N', '\u0085'), ('_', '\u00a0'), ('L', '\u2028'), ('P', '\u2029')]

def codeWidths : Table Char Nat := [('x', 2), ('u', 4), ('U', 8)]

def isLetter (c : Char) : Bool :=
  (0x41 ≤ c.toNat && c.toNat ≤ 0x5A) || (0x61 ≤ c.toNat && c.toNat ≤ 0x7A)

def digitOf (c : Char) : Nat :=
  if c.isDigit then c.toNat - 0x30
  else if c.toNat < 0x61 then c.toNat - 0x37
  else c.toNat - 0x57

def isDigitOf (base : Nat) (c : Char) : Bool := (c.isDigit || isLetter c) && digitOf c < base

def inBase (base : Nat) (ds : List Char) : Nat := ds.foldl (fun n d ↦ n * base + digitOf d) 0

def code? (width : Nat) (cs : List Char) : Option Nat :=
  let ds := cs.take width
  if ds.length = width ∧ ds.all (isDigitOf 16) then some (inBase 16 ds) else none

def isHighHalf (code : Nat) : Bool := 0xD800 ≤ code && code < 0xDC00

def isLowHalf (code : Nat) : Bool := 0xDC00 ≤ code && code < 0xE000

def lowHalf? : List Char → Option Nat
  | '\\' :: 'u' :: rest => (code? 4 rest).filter isLowHalf
  | _ => none

def lowHalfLength : Nat := 6

/-- The character that a code stands for, and how much of what follows the code belongs to it. Two
halves are one character, and a half alone is replaced. -/
def codeChar (code : Nat) (after : List Char) : Except Fault (Char × Nat) :=
  if 0x80000000 ≤ code then .error (.overflow "Python int too large to convert to C int")
  else if 0x110000 ≤ code then .error (.wrongValue "chr() arg not in range(0x110000)")
  else if code.isValidChar then .ok (Char.ofNat code, 0)
  else match lowHalf? after with
    | some low =>
      if isHighHalf code then
        .ok (Char.ofNat (0x10000 + (code - 0xD800) * 0x400 + (low - 0xDC00)), lowHalfLength)
      else .ok ('\ufffd', 0)
    | none => .ok ('\ufffd', 0)

/-- What a backslash and the characters behind it stand for, and the place after them. A line end
behind a backslash is left out. -/
def escape (c : Cursor) : Except Fault (List Char × Cursor) :=
  let body := c.step
  match body.rest with
  | [] => .error body.misfit
  | letter :: rest =>
    match escapes.get? letter, codeWidths.get? letter with
    | some ch, _ => .ok ([ch], body.step)
    | none, some width =>
      match code? width rest with
      | none => .error (body.step.skip (isDigitOf 16)).misfit
      | some code =>
        (codeChar code (rest.drop width)).map fun (ch, more) ↦ ([ch], body.forward (1 + width + more))
    | none, none => if isBreak letter then quotedLines body.step else .error .malformedYaml

/-- The text up to the closing quote. Single quotes are doubled inside single quotes, and backslashes
escape inside double ones. -/
def quotedRest (quote : Char) : (fuel : Nat) → (done : List Char) → Cursor →
    Except Fault (List Char × Cursor)
  | 0, _, _ => .error .malformedYaml
  | fuel + 1, done, c =>
    match c.rest with
    | [] => .error c.misfit
    | ch :: rest =>
      if ch == quote then
        if quote == '\x27' && rest.head? == some quote then
          quotedRest quote fuel (quote :: done) (c.forward 2)
        else .ok (done.reverse, c.step)
      else if ch == '\\' && quote == '"' then
        match escape c with
        | .error e => .error e
        | .ok (chars, next) => quotedRest quote fuel (chars.reverse ++ done) next
      else if isBlank ch || isBreak ch then
        match quotedGap c with
        | .error e => .error e
        | .ok (chars, next) => quotedRest quote fuel (chars.reverse ++ done) next
      else quotedRest quote fuel (ch :: done) c.step

def quoted (quote : Char) (c : Cursor) : Except Fault (String × Cursor) :=
  (quotedRest quote (c.rest.length + 1) [] c.step).map fun (chars, next) ↦
    (String.ofList chars, next)

end Stylesheet.Yaml
