import Stylesheet.Number.Binary64
import Stylesheet.Text.Blank
import Stylesheet.Text.Digit

namespace Stylesheet.Number

/-- The digits of a run in which single underscores may stand between digits. -/
def digitRun? : List Char → Option (List Nat)
  | [] => none
  | [c] => (Text.digitValue? c).map ([·])
  | c :: '_' :: rest => do
    let d ← Text.digitValue? c
    return d :: (← digitRun? rest)
  | c :: rest => do
    let d ← Text.digitValue? c
    return d :: (← digitRun? rest)

def ofDigits (ds : List Nat) : Nat := ds.foldl (fun n d ↦ n * 10 + d) 0

def splitSign : List Char → Bool × List Char
  | '-' :: rest => (true, rest)
  | '+' :: rest => (false, rest)
  | cs => (false, cs)

/-- Longer numerals are neither read nor written. -/
def longestNumeral : Nat := 4300

def isWritable (n : Int) : Bool := (Nat.toDigits 10 n.natAbs).length ≤ longestNumeral

inductive Refusal where
  | malformed
  | tooLong (digits : Nat)
deriving DecidableEq, Inhabited

def isNumeralChar (c : Char) : Bool := c == '_' || (Text.digitValue? c).isSome

/-- Reads an integer. A numeral with too many digits is told apart whatever stands behind it. -/
def integer (s : String) : Except Refusal Int :=
  let (negative, cs) := splitSign (Text.trimBlank s.toList)
  match digitRun? (cs.takeWhile isNumeralChar) with
  | none => .error .malformed
  | some ds =>
    if longestNumeral < ds.length then .error (.tooLong ds.length)
    else if (cs.dropWhile isNumeralChar).isEmpty then
      let n : Int := ofDigits ds
      .ok (if negative then -n else n)
    else .error .malformed

def int? (s : String) : Option Int := (integer s).toOption

def splitAt (stop : Char → Bool) (cs : List Char) : List Char × List Char :=
  (cs.takeWhile fun c ↦ !stop c, cs.dropWhile fun c ↦ !stop c)

def optionalRun? (cs : List Char) : Option (List Nat) := if cs.isEmpty then some [] else digitRun? cs

def exponent? : List Char → Option Int
  | [] => some 0
  | _ :: cs => do
    let (negative, digits) := splitSign cs
    let n : Int := ofDigits (← digitRun? digits)
    return if negative then -n else n

def decimal? (negative : Bool) (cs : List Char) : Option Binary64 := do
  let (mantissa, power) := splitAt (fun c ↦ c == 'e' || c == 'E') cs
  let (whole, rest) := splitAt (· == '.') mantissa
  let whole ← optionalRun? whole
  let rest ← optionalRun? (rest.drop 1)
  if whole.isEmpty && rest.isEmpty then none
  let e ← exponent? power
  return Binary64.ofDecimal negative (ofDigits (whole ++ rest)) (e - rest.length)

def float? (s : String) : Option Binary64 :=
  let (negative, cs) := splitSign (Text.trimBlank s.toList)
  match String.ofList (cs.map Char.toLower) with
  | "nan" => some .nan
  | "inf" => some (.infinite negative)
  | "infinity" => some (.infinite negative)
  | _ => decimal? negative cs

end Stylesheet.Number
