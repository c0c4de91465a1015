import Stylesheet.Number.Printed

namespace Stylesheet.Log

structure Moment where
  year : Nat
  month : Nat
  day : Nat
  hour : Nat
  minute : Nat
  second : Nat
  microsecond : Nat
deriving Inhabited, DecidableEq

namespace Moment

def padded (width n : Nat) : String :=
  let digits := Number.digitsText n
  String.ofList (Number.zeros (width - digits.length) ++ digits)

def time (m : Moment) : String :=
  padded 2 m.hour ++ ":" ++ padded 2 m.minute ++ ":" ++ padded 2 m.second

def stamp (m : Moment) : String :=
  padded 4 m.year ++ "-" ++ padded 2 m.month ++ "-" ++ padded 2 m.day ++ "T" ++ m.time ++
    (if m.microsecond = 0 then "" else "." ++ padded 6 m.microsecond) ++ "+00:00"

end Moment

end Stylesheet.Log
