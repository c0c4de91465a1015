import Stylesheet.Number.Printed
import Stylesheet.Text.Lines

namespace Stylesheet

structure Clock where
  hour : Nat := 0
  minute : Nat := 0
  second : Nat := 0
  microsecond : Nat := 0
deriving DecidableEq, Inhabited

/-- A day, a moment of it if a clock is given, and how many minutes the clock is ahead of universal
time if that is known. -/
structure Timestamp where
  year : Nat
  month : Nat
  day : Nat
  clock : Option Clock := none
  ahead : Option Int := none
deriving DecidableEq, Inhabited

namespace Timestamp

def isLeapYear (year : Nat) : Bool := year % 4 == 0 && (year % 100 != 0 || year % 400 == 0)

def daysIn (year month : Nat) : Nat :=
  if month = 2 then (if isLeapYear year then 29 else 28)
  else if [4, 6, 9, 11].contains month then 30
  else 31

def minutesPerDay : Nat := 1440

def spanShown (minutes : Int) : String :=
  let days := minutes / minutesPerDay
  let seconds := minutes % minutesPerDay * 60
  let parts := (if days = 0 then [] else ["days=" ++ Number.intText days]) ++
    (if seconds = 0 then [] else ["seconds=" ++ Number.intText seconds])
  "datetime.timedelta(" ++ (if parts.isEmpty then "0" else Text.join ", " parts) ++ ")"

/-- What is wrong with a zone, if anything is: it differs from universal time by less than a day. -/
def zoneFlaw? (ahead : Int) : Option String :=
  if ahead.natAbs < minutesPerDay then none
  else some ("offset must be a timedelta strictly between -timedelta(hours=24) and " ++
    "timedelta(hours=24), not " ++ spanShown ahead ++ ".")

def clockFlaw? (c : Clock) : Option String :=
  if 23 < c.hour then some "hour must be in 0..23"
  else if 59 < c.minute then some "minute must be in 0..59"
  else if 59 < c.second then some "second must be in 0..59"
  else none

def dayFlaw? (year month day : Nat) : Option String :=
  if year = 0 then some "year 0 is out of range"
  else if month = 0 ∨ 12 < month then some "month must be in 1..12"
  else if day = 0 ∨ daysIn year month < day then some "day is out of range for month"
  else none

def flaw? (t : Timestamp) : Option String :=
  (t.ahead.bind zoneFlaw?).or ((dayFlaw? t.year t.month t.day).or (t.clock.bind clockFlaw?))

def typeName (t : Timestamp) : String := if t.clock.isSome then "datetime" else "date"

def zoneShown (ahead : Int) : String :=
  if ahead = 0 then "datetime.timezone.utc" else "datetime.timezone(" ++ spanShown ahead ++ ")"

def clockNumbers (c : Clock) : List Nat :=
  if c.microsecond != 0 then [c.hour, c.minute, c.second, c.microsecond]
  else if c.second != 0 then [c.hour, c.minute, c.second]
  else [c.hour, c.minute]

def shown (t : Timestamp) : String :=
  let numbers := [t.year, t.month, t.day] ++ (t.clock.map clockNumbers).getD []
  let zone := match t.ahead with
    | some ahead => ["tzinfo=" ++ zoneShown ahead]
    | none => []
  "datetime." ++ t.typeName ++ "(" ++
    Text.join ", " ((numbers.map fun (n : Nat) ↦ Number.intText n) ++ zone) ++ ")"

end Timestamp

end Stylesheet
