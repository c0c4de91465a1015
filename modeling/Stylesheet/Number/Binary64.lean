namespace Stylesheet.Number

/-- `base ^ e`, and one for a negative exponent. A ratio is scaled by `raised base e` above the line
and `raised base (-e)` below it. -/
def raised (base : Nat) (e : Int) : Nat := Nat.pow base e.toNat

/-- `finite` stands for `± mantissa · 2 ^ exponent`. -/
inductive Binary64 where
  | nan
  | infinite (negative : Bool)
  | finite (negative : Bool) (mantissa : Nat) (exponent : Int)
deriving DecidableEq, Inhabited

namespace Binary64

def leastExponent : Int := -1074

def greatestExponent : Int := 971

def leastNormal : Nat := Nat.pow 2 52

def zero (negative : Bool) : Binary64 := .finite negative 0 leastExponent

/-- Rounds `num / den` to a natural, a half to the even neighbour. -/
def roundEven (num den : Nat) : Nat :=
  let q := num / den
  let r := num % den
  if 2 * r < den then q
  else if 2 * r = den then q + q % 2
  else q + 1

/-- The exponent at which `num / den` has 53 bits before the point, or the least one. -/
def exponentFor (num den : Nat) : Int :=
  let guess : Int := num.log2 - den.log2 - 52
  let isShort := num * raised 2 (-guess) < den * raised 2 guess * leastNormal
  max (if isShort then guess - 1 else guess) leastExponent

def ofRatio (negative : Bool) (num den : Nat) : Binary64 :=
  if num = 0 then zero negative
  else
    let e := exponentFor num den
    let m := roundEven (num * raised 2 (-e)) (den * raised 2 e)
    let (m, e) := if m = 2 * leastNormal then (leastNormal, e + 1) else (m, e)
    if greatestExponent < e then .infinite negative else .finite negative m e

/-- The double nearest to `± digits · 10 ^ exponent`; powers far outside the range are not built. -/
def ofDecimal (negative : Bool) (digits : Nat) (exponent : Int) : Binary64 :=
  let size : Int := (Nat.toDigits 10 digits).length
  if digits = 0 then zero negative
  else if 400 < size + exponent then .infinite negative
  else if size + exponent < -400 then zero negative
  else ofRatio negative (digits * raised 10 exponent) (raised 10 (-exponent))

def isZero : Binary64 → Bool
  | .finite _ 0 _ => true
  | _ => false

def truncate? : Binary64 → Option Int
  | .finite negative m e =>
    let n := m * raised 2 e / raised 2 (-e)
    some (if negative then -n else n)
  | _ => none

def isNegative : Binary64 → Bool
  | .nan => false
  | .infinite negative => negative
  | .finite negative m _ => negative && m != 0

def negated : Binary64 → Binary64
  | .nan => .nan
  | .infinite negative => .infinite !negative
  | .finite negative m e => .finite (!negative) m e

def ofIntRatio (n : Int) (den : Nat) : Binary64 := ofRatio (n < 0) n.natAbs den

def signed (negative : Bool) (m : Nat) : Int := if negative then -m else m

def plus : Binary64 → Binary64 → Binary64
  | .nan, _ | _, .nan => .nan
  | .infinite s, .infinite t => if s = t then .infinite s else .nan
  | .infinite s, _ | _, .infinite s => .infinite s
  | .finite s m e, .finite t n f =>
    let least := min e f
    let sum := signed s m * raised 2 (e - least) + signed t n * raised 2 (f - least)
    ofIntRatio (sum * raised 2 least) (raised 2 (-least))

def times (x : Binary64) (n : Nat) : Binary64 :=
  match x with
  | .nan => .nan
  | .infinite s => if n = 0 then .nan else .infinite s
  | .finite s m e => ofRatio s (m * n * raised 2 e) (raised 2 (-e))

def equalsInt (x : Binary64) (n : Int) : Bool :=
  match x with
  | .finite negative m e =>
    let signed : Int := if negative then -m else m
    signed * raised 2 e == n * raised 2 (-e)
  | _ => false

/-- Equality of numbers: no number equals `nan`, and both zeros are equal. -/
def numEq (x y : Binary64) : Bool :=
  match x, y with
  | .nan, _ => false
  | .finite _ 0 _, .finite _ 0 _ => true
  | _, _ => x == y

end Binary64

end Stylesheet.Number
