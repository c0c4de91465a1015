import Stylesheet.Log.Formatter

namespace Stylesheet.Log

inductive Mode where
  | human
  | verbose
  | json
deriving Inhabited, DecidableEq

def Mode.ofText? : String → Option Mode
  | "human" => some .human
  | "verbose" => some .verbose
  | "json" => some .json
  | _ => none

structure Setup where
  level : Level := info
  formatter : Formatter := .human false false
deriving Inhabited

structure Switches where
  verbose : Bool := false
  quiet : Bool := false
  json : Bool := false
deriving Inhabited, DecidableEq

namespace Switches

def mode (s : Switches) : Mode :=
  if s.json then .json else if s.verbose then .verbose else .human

/-- Quiet wins over verbose. -/
def level (s : Switches) : Level :=
  if s.quiet then warning else if s.verbose then debug else info

end Switches

namespace Setup

def make (mode : Mode) (level : Level) (isTerminal : Bool) : Setup where
  level := level
  formatter := match mode with
    | .human => .human isTerminal false
    | .verbose => .verbose isTerminal
    | .json => .json

def ofSwitches (s : Switches) (isTerminal : Bool) : Setup := make s.mode s.level isTerminal

/-- The least level of records that are let through; a level of zero stands for none of its own. -/
def threshold (s : Setup) : Level := if s.level = 0 then warning else s.level

/-- Levels up to zero are never let through. -/
def lets (s : Setup) (l : Level) : Bool := 0 < l && s.threshold ≤ l

def bareLevel : Level := warning

end Setup

/-- What is written for a record: by the handler, and beside it where no handler takes the record. -/
structure Output where
  handled : String := ""
  unhandled : String := ""
deriving Inhabited

def Output.append (a b : Output) : Output := ⟨a.handled ++ b.handled, a.unhandled ++ b.unhandled⟩

/-- How a logger comes to write. The main logger and those below it have its handler. The root of all
loggers has none, and cannot write structured records. -/
inductive Route where
  | handled
  | root
  | unhandled
deriving DecidableEq, Inhabited

def Route.ofLogger (name : String) : Route :=
  if name = mainLogger ∨ name.startsWith (mainLogger ++ ".") then .handled
  else if name = "" ∨ name = "root" then .root
  else .unhandled

/-- A line with its end; nothing if it cannot be made. -/
def lineOrNothing (line : Build String) : Build String := do
  match ← Build.outcome line with
  | .ok line => return line ++ "\n"
  | .error e => if e.isError && !e.isTooDeep then return "" else throw e

namespace Setup

variable (activate : Body → Value → Build Unit)

def output (s : Setup) (now : Moment) (r : Record) : Build Output := do
  match Route.ofLogger r.logger with
  | .handled =>
    if s.lets r.level then
      return { handled := ← lineOrNothing (s.formatter.line activate now r) }
    else return {}
  | _ =>
    if bareLevel ≤ r.level then
      return { unhandled := ← lineOrNothing (r.bareLine activate) }
    else return {}

def outputs (s : Setup) (now : Moment) : List Record → Build Output
  | [] => pure {}
  | r :: rest => do
    let first ← s.output activate now r
    return first.append (← s.outputs now rest)

end Setup

def reservedFields : List String := ["self", "level", "msg"]

/-- A record with fields given by name. There is none of a level that cannot be written. -/
def Record.structured (logger : String) (level : Level) (template : Value)
    (fields : Table String Value) : Except Fault Record :=
  if Route.ofLogger logger = .root then .error (.missingAttribute "RootLogger" "structured")
  else if fields.any fun (name, _) ↦ reservedFields.contains name then
    .error (.wrongType "got multiple values for argument")
  else if !Number.isWritable level then .error .unwritable
  else .ok { logger, level, template, fields := .dict (fields.map fun (name, v) ↦ (.text name, v)) }

end Stylesheet.Log
