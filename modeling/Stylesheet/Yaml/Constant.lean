import Stylesheet.Value
import Stylesheet.Yaml.Plain

namespace Stylesheet.Yaml.Constant

def trueWords : List String := ["yes", "true", "on"]

def falseWords : List String := ["no", "false", "off"]

def bool (text : String) : Except Fault Bool :=
  let word := text.toLower
  if trueWords.contains word then .ok true
  else if falseWords.contains word then .ok false
  else .error (.unboundName word)

def withoutLines (text : String) : List Char := text.toList.filter (· != '_')

def digit? (c : Char) : Option Nat :=
  (Text.digitValue? c).or (if isLetter c then some (digitOf c.toLower) else none)

def baseLetter : Nat → Char
  | 2 => 'b'
  | 8 => 'o'
  | _ => 'x'

def inBase (base : Nat) (cs : List Char) : Except Fault Int :=
  let (negative, ds) := Number.splitSign (Text.trimBlank cs)
  let ds := match ds with
    | '0' :: letter :: rest => if letter.toLower = baseLetter base then rest else ds
    | _ => ds
  let digits := ds.filterMap fun c ↦ (digit? c).filter (· < base)
  if ds.isEmpty || digits.length != ds.length then
    .error (.badLiteral base (Text.quoted (String.ofList cs)))
  else .ok (Number.Binary64.signed negative (digits.foldl (fun n d ↦ n * base + d) 0))

def decimal (cs : List Char) : Except Fault Int :=
  let text := String.ofList cs
  (Number.integer text).mapError (Fault.ofRefusal (Text.quoted text))

def signed (cs : List Char) : Except Fault (Bool × List Char) :=
  if cs.isEmpty then .error .outOfRange else .ok (Number.splitSign cs)

def int (text : String) : Except Fault Int := do
  let (negative, cs) ← signed (withoutLines text)
  let n ← match cs with
    | [] => throw .outOfRange
    | ['0'] => pure 0
    | '0' :: 'b' :: ds => inBase 2 ds
    | '0' :: 'x' :: ds => inBase 16 ds
    | '0' :: _ => inBase 8 cs
    | _ =>
      if cs.contains ':' then do
        pure ((← (colonParts cs).mapM decimal).foldl (fun n part ↦ n * 60 + part) 0)
      else decimal cs
  return if negative then -n else n

def fraction (cs : List Char) : Except Fault Number.Binary64 :=
  let text := String.ofList cs
  match Number.float? text with
  | some x => .ok x
  | none => .error (.wrongValue ("could not convert string to float: " ++ Text.quoted text))

/-- The sum of places to the base of sixty, given from the least one on. -/
def sixtieths (places : List Number.Binary64) : Number.Binary64 :=
  (places.foldl (fun ((sum, base) : Number.Binary64 × Nat) x ↦ (sum.plus (x.times base), base * 60))
    (.zero false, 1)).1

def float (text : String) : Except Fault Number.Binary64 := do
  let (negative, cs) ← signed ((withoutLines text).map Char.toLower)
  let x ←
    if cs == ".inf".toList then pure (.infinite false)
    else if cs == ".nan".toList then return .nan
    else if cs.contains ':' then do
      pure (sixtieths (← (colonParts cs).mapM fraction).reverse)
    else fraction cs
  return if negative then x.negated else x

def sixBits? (c : Char) : Option Nat :=
  let n := c.toNat
  if 0x41 ≤ n ∧ n ≤ 0x5A then some (n - 0x41)
  else if 0x61 ≤ n ∧ n ≤ 0x7A then some (n - 0x61 + 26)
  else if c.isDigit then some (n - 0x30 + 52)
  else if c = '+' then some 62
  else if c = '/' then some 63
  else none

/-- The bytes that characters of six bits each stand for. `place` of them have been read since the last
whole number of bytes, `left` is what they leave over, and `pads` pads stand behind them. Other
characters are passed over. -/
def bytes? : (place left pads : Nat) → List Char → Option (List UInt8)
  | place, _, _, [] => if place = 0 then some [] else none
  | place, left, pads, c :: rest =>
    if c = '=' then
      if place < 2 then bytes? place left pads rest
      else if 4 ≤ place + pads + 1 then some []
      else bytes? place left (pads + 1) rest
    else match sixBits? c with
      | none => bytes? place left pads rest
      | some n =>
        let byte (upper lower : Nat) : UInt8 := UInt8.ofNat (upper + lower)
        match place with
        | 0 => bytes? 1 n 0 rest
        | 1 => (bytes? 2 (n % 16) 0 rest).map (byte (left * 4) (n / 16) :: ·)
        | 2 => (bytes? 3 (n % 4) 0 rest).map (byte (left * 16) (n / 4) :: ·)
        | _ => (bytes? 0 0 0 rest).map (byte (left * 64) n :: ·)

def binary (text : String) : Except Fault ByteArray :=
  if text.toList.all fun c ↦ c.toNat < 0x80 then
    match bytes? 0 0 0 text.toList with
    | some bs => .ok ⟨bs.toArray⟩
    | none => .error .malformedYaml
  else .error .malformedYaml

def timestamp (text : String) : Except Fault Timestamp :=
  match timestamp? (withoutLineEnd text.toList) with
  | none => .error (.missingAttribute "NoneType" "groupdict")
  | some t =>
    match t.flaw? with
    | none => .ok t
    | some flaw => .error (.wrongValue flaw)

def ofTag (tag : Tag) (text : String) : Except Fault Value :=
  match tag with
  | .null => .ok .none
  | .bool => (bool text).map .bool
  | .int => (int text).map .int
  | .float => (float text).map fun x ↦ .atom (.float x)
  | .binary => (binary text).map fun b ↦ .atom (.bytes b)
  | .timestamp => (timestamp text).map .timestamp
  | .text => .ok (.text text)
  | _ => .error .malformedYaml

def ofPlain (text : String) : Except Fault Value := ofTag (.ofPlain text) text

end Stylesheet.Yaml.Constant
