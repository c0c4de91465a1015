import Stylesheet.Json.Basic

namespace Stylesheet.Json

def hexValue? (c : Char) : Option Nat :=
  let n := c.toNat
  if 0x30 ≤ n ∧ n ≤ 0x39 then some (n - 0x30)
  else if 0x61 ≤ n ∧ n ≤ 0x66 then some (n - 0x57)
  else if 0x41 ≤ n ∧ n ≤ 0x46 then some (n - 0x37)
  else none

def unitOf? (a b c d : Char) : Option Nat := do
  return (((← hexValue? a) * 16 + (← hexValue? b)) * 16 + (← hexValue? c)) * 16 + (← hexValue? d)

def escaped? : Char → Option Char
  | '"' => some '"'
  | '\\' => some '\\'
  | '/' => some '/'
  | 'b' => some '\x08'
  | 'f' => some '\x0c'
  | 'n' => some '\n'
  | 'r' => some '\r'
  | 't' => some '\t'
  | _ => none

def readCodes : List Char → Option (List Nat × List Char)
  | [] => none
  | '"' :: rest => some ([], rest)
  | '\\' :: 'u' :: a :: b :: c :: d :: rest => do
    let u ← unitOf? a b c d
    let (more, rest) ← readCodes rest
    return (u :: more, rest)
  | '\\' :: e :: rest => do
    let c ← escaped? e
    let (more, rest) ← readCodes rest
    return (c.toNat :: more, rest)
  | c :: rest => do
    let (more, rest) ← readCodes rest
    return (c.toNat :: more, rest)

def isHigh (n : Nat) : Bool := 0xD800 ≤ n && n < 0xDC00

def isLow (n : Nat) : Bool := 0xDC00 ≤ n && n < 0xE000

/-- Joins the two units of a pair; a unit without its partner is no text. -/
def joinUnits : List Nat → Option (List Char)
  | [] => some []
  | [n] => if isHigh n || isLow n then none else some [Char.ofNat n]
  | n :: m :: rest =>
    if isHigh n then
      if isLow m then
        (joinUnits rest).map (Char.ofNat (0x10000 + (n - 0xD800) * 0x400 + (m - 0xDC00)) :: ·)
      else none
    else if isLow n then none
    else (joinUnits (m :: rest)).map (Char.ofNat n :: ·)

def readText (cs : List Char) : Option (String × List Char) := do
  let (codes, rest) ← readCodes cs
  return (String.ofList (← joinUnits codes), rest)

def isSpace (c : Char) : Bool := c = ' ' || c = '\n' || c = '\r' || c = '\t'

def skip (cs : List Char) : List Char := cs.dropWhile isSpace

def isNumeral (c : Char) : Bool := c.isDigit || c = '-' || c = '+' || c = '.' || c = 'e' || c = 'E'

def digitsValue (cs : List Char) : Nat := cs.foldl (fun n c ↦ n * 10 + (c.toNat - 0x30)) 0

def ofNumeral? : List Char → Option Json
  | '-' :: digits =>
    if digits.isEmpty then none
    else if digits.all Char.isDigit then some (.int (-(digitsValue digits)))
    else some (.decimal (String.ofList ('-' :: digits)))
  | digits =>
    if digits.isEmpty then none
    else if digits.all Char.isDigit then some (.int (digitsValue digits))
    else some (.decimal (String.ofList digits))

def readWord : List Char → Option (Json × List Char)
  | 'n' :: 'u' :: 'l' :: 'l' :: rest => some (.null, rest)
  | 't' :: 'r' :: 'u' :: 'e' :: rest => some (.bool true, rest)
  | 'f' :: 'a' :: 'l' :: 's' :: 'e' :: rest => some (.bool false, rest)
  | 'N' :: 'a' :: 'N' :: rest => some (.decimal "NaN", rest)
  | 'I' :: 'n' :: 'f' :: 'i' :: 'n' :: 'i' :: 't' :: 'y' :: rest => some (.decimal "Infinity", rest)
  | '-' :: 'I' :: 'n' :: 'f' :: 'i' :: 'n' :: 'i' :: 't' :: 'y' :: rest =>
    some (.decimal "-Infinity", rest)
  | cs => (ofNumeral? (cs.takeWhile isNumeral)).map fun j ↦ (j, cs.dropWhile isNumeral)

mutual

/-- Every level of nesting and every item spends one unit of `fuel`. -/
def read : (fuel : Nat) → List Char → Option (Json × List Char)
  | 0, _ => none
  | fuel + 1, cs =>
    match cs with
    | '"' :: rest => (readText rest).map fun (s, rest) ↦ (.text s, rest)
    | '[' :: rest =>
      match skip rest with
      | ']' :: rest => some (.array [], rest)
      | rest => (readItems fuel rest).map fun (items, rest) ↦ (.array items, rest)
    | '\x7b' :: rest =>
      match skip rest with
      | '\x7d' :: rest => some (.object [], rest)
      | rest => (readMembers fuel rest).map fun (members, rest) ↦ (.object members, rest)
    | cs => readWord cs

def readItems : (fuel : Nat) → List Char → Option (List Json × List Char)
  | 0, _ => none
  | fuel + 1, cs => do
    let (first, rest) ← read fuel cs
    match skip rest with
    | ']' :: rest => return ([first], rest)
    | ',' :: rest =>
      let (more, rest) ← readItems fuel (skip rest)
      return (first :: more, rest)
    | _ => none

def readMembers : (fuel : Nat) → List Char → Option (List (String × Json) × List Char)
  | 0, _ => none
  | fuel + 1, cs => do
    let (name, rest) ← match cs with
      | '"' :: rest => readText rest
      | _ => none
    let rest ← match skip rest with
      | ':' :: rest => some (skip rest)
      | _ => none
    let (value, rest) ← read fuel rest
    match skip rest with
    | '\x7d' :: rest => return ([(name, value)], rest)
    | ',' :: rest =>
      let (more, rest) ← readMembers fuel (skip rest)
      return ((name, value) :: more, rest)
    | _ => none

end

def parse? (s : String) : Option Json :=
  let cs := s.toList
  match read (cs.length + 1) (skip cs) with
  | some (j, rest) => if (skip rest).isEmpty then some j else none
  | none => none

end Stylesheet.Json
