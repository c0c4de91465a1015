import Stylesheet.Text.Digit
import Stylesheet.Text.Word

namespace Stylesheet.Log

inductive Marking where
  | percent
  | braces
  | dollar
deriving DecidableEq, Inhabited

def Marking.ofText? : String → Option Marking
  | "%" => some .percent
  | "\x7b" => some .braces
  | "$" => some .dollar
  | _ => none

namespace Layout

def isDigit (c : Char) : Bool := (Text.digitValue? c).isSome

def afterRun? (isOne : Char → Bool) (cs : List Char) : Option (List Char) :=
  if (cs.takeWhile isOne).isEmpty then none else some (cs.dropWhile isOne)

def after? (c : Char) : List Char → Option (List Char)
  | d :: rest => if d == c then some rest else none
  | [] => none

def afterOptional (isOne : Char → Bool) : List Char → List Char
  | c :: rest => if isOne c then rest else c :: rest
  | [] => []

def afterStarOrDigits? (cs : List Char) : Option (List Char) :=
  (after? '*' cs).or (afterRun? isDigit cs)

/-- Letters in either case; each of three letters beyond ASCII is a case of one in ASCII. -/
def conversions : List Char := "diouxefgcrsa%DIOUXEFGCRSA\u0130\u0131\u017f".toList

/-- Whether a field starts behind a percent sign: a name in round brackets, flags, a width, a precision
and a letter. -/
def startsPercentField (cs : List Char) : Bool :=
  let found := do
    let cs ← after? ')' (← afterRun? Text.isWordChar (← after? '(' cs))
    let cs := cs.dropWhile "#0+ -".toList.contains
    let cs := (afterStarOrDigits? cs).getD cs
    let cs := ((after? '.' cs).bind afterStarOrDigits?).getD cs
    let letter ← cs.head?
    return conversions.contains letter
  found.getD false

def hasPercentField : List Char → Bool
  | [] => false
  | c :: rest => (c == '%' && startsPercentField rest) || hasPercentField rest

def startsName (c : Char) : Bool := c.isAlpha || c == '_'

def isNameChar (c : Char) : Bool := c.isAlphanum || c == '_'

def afterDollarField? : List Char → Option (List Char)
  | '\x7b' :: c :: rest => if startsName c then after? '\x7d' (rest.dropWhile isNameChar) else none
  | c :: rest => if startsName c then some (rest.dropWhile isNameChar) else none
  | [] => none

def hasDollarFields (found : Bool) : (fuel : Nat) → List Char → Bool
  | 0, _ => found
  | _, [] => found
  | fuel + 1, '$' :: '$' :: rest => hasDollarFields found fuel rest
  | fuel + 1, '$' :: rest =>
    match afterDollarField? rest with
    | some rest => hasDollarFields true fuel rest
    | none => false
  | fuel + 1, _ :: rest => hasDollarFields found fuel rest

/-- A field in curly brackets: its name, the letter behind `!`, and what stands behind the colon. -/
structure BraceField where
  name : List Char
  conversion : Option Char := none
  spec : List Char := []
deriving Inhabited

def endsName (c : Char) : Bool := c == '\x7d' || c == ':' || c == '!'

/-- The name of a field in front of the character that ends it. In square brackets anything may
stand. -/
def fieldName (inSquares : Bool) : List Char → Option (List Char × List Char)
  | [] => none
  | c :: rest =>
    if !inSquares && endsName c then some ([], c :: rest)
    else if !inSquares && c == '\x7b' then none
    else (fieldName (if inSquares then c != ']' else c == '[') rest).map fun (name, rest) ↦
      (c :: name, rest)

/-- What stands in front of the bracket that closes what has been opened outside `level` inner
brackets. -/
def toClosing : (level : Nat) → List Char → Option (List Char × List Char)
  | _, [] => none
  | level, c :: rest =>
    if c == '\x7d' && level == 0 then some ([], rest)
    else
      let level := if c == '\x7b' then level + 1 else if c == '\x7d' then level - 1 else level
      (toClosing level rest).map fun (spec, rest) ↦ (c :: spec, rest)

def braceField? (cs : List Char) : Option (BraceField × List Char) := do
  let (name, rest) ← fieldName false cs
  let (conversion, rest) := match rest with
    | '!' :: c :: rest => (some c, rest)
    | rest => (none, rest)
  match rest with
  | '\x7d' :: rest => return (⟨name, conversion, []⟩, rest)
  | ':' :: rest =>
    let (spec, rest) ← toClosing 0 rest
    return (⟨name, conversion, spec⟩, rest)
  | _ => none

def isOver (cs : List Char) : Bool := cs.isEmpty || cs == ['\n']

/-- What follows the parts of a name: words behind points and keys in square brackets. -/
def afterParts : (fuel : Nat) → List Char → List Char
  | 0, cs => cs
  | fuel + 1, '.' :: rest =>
    match afterRun? Text.isWordChar rest with
    | some rest => afterParts fuel rest
    | none => '.' :: rest
  | fuel + 1, '[' :: rest =>
    match (afterRun? (· != ']') rest).bind (after? ']') with
    | some rest => afterParts fuel rest
    | none => '[' :: rest
  | _, cs => cs

def isFieldName (cs : List Char) : Bool :=
  match afterRun? Text.isWordChar cs with
  | some rest => isOver (afterParts rest.length rest)
  | none => false

def aligns (c : Char) : Bool := "<=>^".toList.contains c

/-- What follows an alignment, in front of which a character to fill with may stand. -/
def afterAlignment : List Char → List Char
  | fill :: c :: rest =>
    if aligns c && fill != '\n' then rest
    else if aligns fill then c :: rest
    else fill :: c :: rest
  | cs => afterOptional aligns cs

def afterNumber? (cs : List Char) : Option (List Char) :=
  (afterRun? isDigit cs).or
    (((after? '\x7b' cs).bind (afterRun? Text.isWordChar)).bind (after? '\x7d'))

def presentations : List Char := "bcdefgnosx%BCDEFGNOSX\u017f".toList

def isSpec (cs : List Char) : Bool :=
  let cs := afterOptional "+ -".toList.contains (afterAlignment cs)
  let cs := afterOptional (· == '0') (afterOptional (· == '#') cs)
  let cs := afterOptional ",_".toList.contains ((afterNumber? cs).getD cs)
  let cs := ((after? '.' cs).bind afterNumber?).getD cs
  isOver (afterOptional presentations.contains cs)

def BraceField.isSound (f : BraceField) : Bool :=
  (f.name.isEmpty || isFieldName f.name) &&
    (f.conversion.map "rsa".toList.contains).getD true && (f.spec.isEmpty || isSpec f.spec)

/-- Whether every bracket is doubled or belongs to a sound field, and there is a field with a name. -/
def hasBraceFields (found : Bool) : (fuel : Nat) → List Char → Bool
  | 0, _ => found
  | _, [] => found
  | fuel + 1, '\x7b' :: '\x7b' :: rest => hasBraceFields found fuel rest
  | fuel + 1, '\x7d' :: '\x7d' :: rest => hasBraceFields found fuel rest
  | _, '\x7d' :: _ => false
  | fuel + 1, '\x7b' :: rest =>
    match braceField? rest with
    | some (f, rest) => f.isSound && hasBraceFields (found || !f.name.isEmpty) fuel rest
    | none => false
  | fuel + 1, _ :: rest => hasBraceFields found fuel rest

end Layout

def Marking.accepts (m : Marking) (layout : String) : Bool :=
  let cs := layout.toList
  match m with
  | .percent => Layout.hasPercentField cs
  | .braces => Layout.hasBraceFields false (cs.length + 1) cs
  | .dollar => Layout.hasDollarFields false (cs.length + 1) cs

end Stylesheet.Log
