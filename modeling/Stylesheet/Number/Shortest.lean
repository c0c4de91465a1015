import Stylesheet.Number.Binary64

namespace Stylesheet.Number

/-- `digits · 10 ^ exponent`. -/
structure Decimal where
  digits : Nat
  exponent : Int
deriving DecidableEq, Inhabited

/-- The value and the two ends of the interval that rounds to it, over one denominator. -/
structure Interval where
  low : Nat
  value : Nat
  high : Nat
  unit : Nat
  closed : Bool

namespace Interval

/-- The reals that round to `m · 2 ^ e`. Below a power of two the next double is half as far. -/
def around (m : Nat) (e : Int) : Interval :=
  let below := if m = Binary64.leastNormal ∧ Binary64.leastExponent < e then 1 else 2
  let scale := raised 2 (e - 2)
  ⟨(4 * m - below) * scale, 4 * m * scale, (4 * m + 2) * scale, raised 2 (2 - e), m % 2 == 0⟩

def contains (i : Interval) (num den c : Nat) : Bool :=
  let x := c * num * i.unit
  if i.closed then i.low * den ≤ x && x ≤ i.high * den
  else i.low * den < x && x < i.high * den

end Interval

def leadingZeros (num den : Nat) : Nat → Nat
  | 0 => 0
  | bound + 1 => if den ≤ num then 0 else leadingZeros (num * 10) den bound + 1

/-- The `k` with `10 ^ (k - 1) ≤ num / den < 10 ^ k`. -/
def decimalPoint (num den : Nat) : Int :=
  if den ≤ num then (Nat.toDigits 10 (num / den)).length
  else 1 - leadingZeros num den 400

/-- The multiple of `10 ^ exponent` in the interval that is nearest to its value, if there is one;
of two equally near the even one. -/
def onGrid (i : Interval) (exponent : Int) : Option Nat :=
  let num := raised 10 exponent
  let den := raised 10 (-exponent)
  let down := i.value * den / (i.unit * num)
  let twiceRest := 2 * (i.value * den % (i.unit * num))
  let nearer := if twiceRest < i.unit * num then down
    else if twiceRest = i.unit * num then down + down % 2
    else down + 1
  let farther := if nearer = down then down + 1 else down
  if i.contains num den nearer then some nearer
  else if i.contains num den farther then some farther
  else none

/-- The first grid from `count` digits on, for at most `fuel` more digits, that has a point in the
interval. -/
def firstGrid (i : Interval) (point : Int) (count : Nat) : Nat → Decimal
  | 0 => ⟨0, 0⟩
  | fuel + 1 =>
    match onGrid i (point - count) with
    | some c => ⟨c, point - count⟩
    | none => firstGrid i point (count + 1) fuel

def stripZeros (d : Decimal) : Nat → Decimal
  | 0 => d
  | fuel + 1 =>
    if d.digits % 10 = 0 ∧ d.digits ≠ 0 then stripZeros ⟨d.digits / 10, d.exponent + 1⟩ fuel else d

/-- The shortest decimal of `m · 2 ^ e`; seventeen digits always suffice. -/
def shortest (m : Nat) (e : Int) : Decimal :=
  if m = 0 then ⟨0, 0⟩
  else
    let i := Interval.around m e
    stripZeros (firstGrid i (decimalPoint i.value i.unit) 1 18) 400

end Stylesheet.Number
