import Stylesheet.Number.Shortest

namespace Stylesheet.Number

/-- A decimal point is written out for values from `10 ^ -4` up to, and without, `10 ^ 16`. -/
structure DecimalStyle where
  leastPoint : Int
  greatestPoint : Int
  exponentWidth : Nat
  nan : String
  infinity : String

def plainStyle : DecimalStyle := ⟨-3, 16, 2, "nan", "inf"⟩

def jsonStyle : DecimalStyle := ⟨-3, 16, 2, "NaN", "Infinity"⟩

def digitsText (n : Nat) : List Char := Nat.toDigits 10 n

def zeros (n : Nat) : List Char := List.replicate n '0'

/-- `0.digits · 10 ^ point` with the point written out and a digit on both its sides. -/
def positional (digits : List Char) (point : Int) : List Char :=
  if point ≤ 0 then '0' :: '.' :: zeros (-point).toNat ++ digits
  else
    let whole := digits.take point.toNat
    let rest := digits.drop point.toNat
    whole ++ zeros (point.toNat - digits.length) ++ '.' :: (if rest.isEmpty then ['0'] else rest)

/-- `0.digits · 10 ^ point` with one digit before the point and an exponent. -/
def scientific (width : Nat) (digits : List Char) (point : Int) : List Char :=
  let power := point - 1
  let shown := digitsText power.natAbs
  let mantissa := match digits with
    | [] => []
    | [d] => [d]
    | d :: rest => d :: '.' :: rest
  mantissa ++ 'e' :: (if power < 0 then '-' else '+') :: zeros (width - shown.length) ++ shown

def decimalText (form : DecimalStyle) (d : Decimal) : List Char :=
  let digits := digitsText d.digits
  let point : Int := if d.digits = 0 then 1 else d.exponent + digits.length
  if point < form.leastPoint ∨ form.greatestPoint < point
  then scientific form.exponentWidth digits point
  else positional digits point

def Binary64.written (form : DecimalStyle) (x : Binary64) : String :=
  let signed (negative : Bool) (s : String) := if negative then "-" ++ s else s
  match x with
  | .nan => form.nan
  | .infinite negative => signed negative form.infinity
  | .finite negative m e => signed negative (String.ofList (decimalText form (shortest m e)))

def intText (n : Int) : String :=
  let shown := String.ofList (digitsText n.natAbs)
  if n < 0 then "-" ++ shown else shown

end Stylesheet.Number
