import Stylesheet.Number.Numeral
import Stylesheet.Timestamp
import Stylesheet.Yaml.Scalar
import Stylesheet.Yaml.Tag

namespace Stylesheet.Yaml

def boolWords : List String :=
  ["yes", "Yes", "YES", "no", "No", "NO", "true", "True", "TRUE", "false", "False", "FALSE",
    "on", "On", "ON", "off", "Off", "OFF"]

def nullWords : List String := ["", "~", "null", "Null", "NULL"]

def infinityWords : List String := [".inf", ".Inf", ".INF"]

def nanWords : List String := [".nan", ".NaN", ".NAN"]

def markWords : List String := ["!", "&", "*"]

def isDigitOrLine (c : Char) : Bool := c.isDigit || c == '_'

def areDigitsOf (base : Nat) (cs : List Char) : Bool :=
  !cs.isEmpty && cs.all fun c ↦ c == '_' || isDigitOf base c

def colonParts : List Char → List (List Char)
  | [] => [[]]
  | c :: rest =>
    match colonParts rest with
    | [] => [[c]]
    | part :: more => if c = ':' then [] :: part :: more else (c :: part) :: more

/-- A place of a numeral to the base of sixty: one digit, or two of which the first is at most 5. -/
def isSixtieth : List Char → Bool
  | [d] => d.isDigit
  | [t, d] => t.isDigit && digitOf t < 6 && d.isDigit
  | _ => false

def isNatural : List Char → Bool
  | '0' :: 'b' :: ds => areDigitsOf 2 ds
  | '0' :: 'x' :: ds => areDigitsOf 16 ds
  | '0' :: ds => ds.isEmpty || areDigitsOf 8 ds
  | cs =>
    match colonParts cs with
    | [] => false
    | whole :: parts =>
      (whole.head?.map Char.isDigit).getD false && whole.all isDigitOrLine && parts.all isSixtieth

def isPower : List Char → Bool
  | [] => true
  | e :: sign :: digits =>
    (e == 'e' || e == 'E') && (sign == '+' || sign == '-') && !digits.isEmpty &&
      digits.all Char.isDigit
  | _ => false

def isDecimal (cs : List Char) : Bool :=
  let (whole, rest) := Number.splitAt (· == '.') (Number.splitSign cs).2
  let fraction := (rest.drop 1).takeWhile isDigitOrLine
  let power := (rest.drop 1).dropWhile isDigitOrLine
  !rest.isEmpty &&
    match colonParts whole with
    | [] => false
    | [[]] => cs.head? == some '.' && (fraction.head?.map Char.isDigit).getD false && isPower power
    | whole :: parts =>
      (whole.head?.map Char.isDigit).getD false && whole.all isDigitOrLine &&
        if parts.isEmpty then isPower power else parts.all isSixtieth && power.isEmpty

def isFloat (cs : List Char) : Bool :=
  infinityWords.contains (String.ofList (Number.splitSign cs).2) ||
    nanWords.contains (String.ofList cs) || isDecimal cs

def shortNumber? : List Char → Option (Nat × List Char)
  | a :: b :: rest =>
    if a.isDigit && b.isDigit then some (inBase 10 [a, b], rest)
    else if a.isDigit then some (digitOf a, b :: rest)
    else none
  | [a] => if a.isDigit then some (digitOf a, []) else none
  | [] => none

def fixedNumber? (width : Nat) (cs : List Char) : Option (Nat × List Char) :=
  let ds := cs.take width
  if ds.length = width ∧ ds.all Char.isDigit then some (inBase 10 ds, cs.drop width) else none

def behind? (mark : Char) : List Char → Option (List Char)
  | c :: rest => if c = mark then some rest else none
  | [] => none

def microseconds (ds : List Char) : Nat :=
  let ds := ds.take 6
  inBase 10 ds * Nat.pow 10 (6 - ds.length)

def zoneMinutes? (cs : List Char) : Option Nat :=
  if cs.isEmpty then some 0
  else do
    let (minutes, rest) ← fixedNumber? 2 (← behind? ':' cs)
    guard rest.isEmpty
    return minutes

def zone? (cs : List Char) : Option (Option Int) :=
  if cs.isEmpty then some none
  else match cs.dropWhile isBlank with
    | ['Z'] => some (some 0)
    | sign :: rest => do
      guard (sign == '+' || sign == '-')
      let (hours, rest) ← shortNumber? rest
      let ahead : Int := hours * 60 + (← zoneMinutes? rest)
      return some (if sign = '-' then -ahead else ahead)
    | [] => none

def behindDay? : List Char → Option (List Char)
  | [] => none
  | c :: rest =>
    if c = 'T' ∨ c = 't' then some rest
    else if isBlank c then some (rest.dropWhile isBlank)
    else none

def clock? (cs : List Char) : Option (Clock × Option Int) := do
  let (hour, rest) ← shortNumber? (← behindDay? cs)
  let (minute, rest) ← fixedNumber? 2 (← behind? ':' rest)
  let (second, rest) ← fixedNumber? 2 (← behind? ':' rest)
  let (fraction, rest) := match rest with
    | '.' :: rest => (rest.takeWhile Char.isDigit, rest.dropWhile Char.isDigit)
    | rest => ([], rest)
  return (⟨hour, minute, second, microseconds fraction⟩, ← zone? rest)

def timestamp? (cs : List Char) : Option Timestamp := do
  let (year, rest) ← fixedNumber? 4 cs
  let (month, rest) ← shortNumber? (← behind? '-' rest)
  let (day, rest) ← shortNumber? (← behind? '-' rest)
  if rest.isEmpty then return { year, month, day }
  let (clock, ahead) ← clock? rest
  return { year, month, day, clock := some clock, ahead }

def dayLength : Nat := 10

/-- A day without a clock counts as a timestamp only with all its digits. -/
def isTimestamp (cs : List Char) : Bool :=
  match timestamp? cs with
  | none => false
  | some t => t.clock.isSome || cs.length == dayLength

def withoutLineEnd (cs : List Char) : List Char :=
  if 1 < cs.length ∧ cs.getLast? = some '\n' then cs.dropLast else cs

def Tag.ofPlain (text : String) : Tag :=
  let cs := withoutLineEnd text.toList
  let word := String.ofList cs
  if boolWords.contains word then .bool
  else if nullWords.contains word then .null
  else if word == "<<" then .merge
  else if word == "=" then .value
  else if markWords.contains word then .unknown
  else if isFloat cs then .float
  else if isNatural (Number.splitSign cs).2 then .int
  else if isTimestamp cs then .timestamp
  else .text

end Stylesheet.Yaml
