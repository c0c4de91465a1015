import Stylesheet.Builder.Block
import Stylesheet.Json.Value
import Stylesheet.Log.Layout
import Stylesheet.Log.Message
import Stylesheet.Log.Moment

namespace Stylesheet.Log

inductive Formatter where
  | human (colors timestamps : Bool)
  | verbose (colors : Bool)
  | json
deriving Inhabited, DecidableEq

namespace Formatter

def name : Formatter → String
  | .human _ _ => "HumanFormatter"
  | .verbose _ => "VerboseFormatter"
  | .json => "JSONFormatter"

def unknownOption : Fault := .wrongType "unexpected keyword argument"

def allows (names : List String) (options : Table String Value) : Bool :=
  options.all fun (name, _) ↦ names.contains name

def marking (style : Value) : Except Fault Marking := do
  style.checkKey
  match style with
  | .atom (.text s) =>
    match Marking.ofText? s with
    | some m => return m
    | none => throw badStyle
  | _ => throw badStyle
where
  badStyle : Fault := .wrongValue "Style must be one of: %,\x7b,$"

/-- Checks the layout that lines for machines could have had. Nothing stands for a sound one. -/
def checkLayout (marking : Marking) (layout : Value) : Except Fault Unit :=
  match layout with
  | .atom (.text s) =>
    if s = "" ∨ marking.accepts s then .ok () else .error (.wrongValue "Invalid format")
  | v => if v.isTruthy then .error (.wrongType "expected string or bytes-like object") else .ok ()

def ofOptions (name : String) (options : Table String Value) : Except Fault Formatter :=
  let option (name : String) (default : Value) := (options.get? name).getD default
  let isOn (name : String) (default : Bool) := (option name (.bool default)).isTruthy
  match name with
  | "HumanFormatter" =>
    if allows ["use_colors", "timestamps"] options
    then .ok (.human (isOn "use_colors" true) (isOn "timestamps" false))
    else .error unknownOption
  | "VerboseFormatter" =>
    if allows ["use_colors"] options then .ok (.verbose (isOn "use_colors" true))
    else .error unknownOption
  | _ =>
    if allows ["fmt", "datefmt", "style", "validate", "defaults"] options then do
      let marking ← marking (option "style" (.text "%"))
      if isOn "validate" true then checkLayout marking (option "fmt" .none)
      return .json
    else .error unknownOption

end Formatter

def resetColor : String := "\x1b[0m"

def colorOf (l : Level) : String :=
  if l = debug then "\x1b[90m"
  else if l = info then "\x1b[32m"
  else if l = warning then "\x1b[33m"
  else if l = error ∨ l = critical then "\x1b[31m"
  else resetColor

def tag (colors : Bool) (l : Level) : String :=
  let shown := "[" ++ levelName l ++ "]"
  if colors then colorOf l ++ shown ++ resetColor else shown

def failureText (f : Fault) : String :=
  let name := f.origin ++ f.className
  if f.lacksWording then name ++ ": <no detail available>"
  else if f.text = "" then name
  else name ++ ": " ++ f.text

namespace Record

variable (activate : Body → Value → Build Unit)

def humanLine (r : Record) (colors : Bool) (time? : Option String) : Build String := do
  let message ← r.message activate
  let stamp := match time? with
    | some time => "[" ++ time ++ "]"
    | none => ""
  let failure := match r.failure with
    | some e => "\n" ++ failureText e
    | none => ""
  return tag colors r.level ++ stamp ++ " " ++ message ++ failure

def bareLine (r : Record) : Build String := do
  let message ← r.message activate
  let lineEnd := if message.endsWith "\n" then "" else "\n"
  return match r.failure with
    | some e => message ++ lineEnd ++ failureText e
    | none => message

def baseEntries (r : Record) (now : Moment) (message : String) : List (Value × Value) :=
  [(.text "level", .text (levelName r.level)), (.text "ts", .text now.stamp),
    (.text "logger", .text r.logger), (.text "msg", .text message)]

/-- The entries that fields add to a line. What is asked for its keys has none to go through. -/
def fieldEntries (fields : Value) : Build (List (Value × Value)) := do
  if !fields.isTruthy then return []
  match fields with
  | .sheet _ | .context _ _ =>
    Builder.ask activate fields "keys" []
    throw Value.none.notIterable
  | v => Builder.entries v

/-- The entries of the JSON line. Fields replace entries of the same name at their place. -/
def jsonEntries (r : Record) (now : Moment) : Build (List (Value × Value)) := do
  let base := r.baseEntries now (← r.message activate)
  return Value.setEntries base (← fieldEntries activate r.fields)

def jsonLine (r : Record) (now : Moment) : Build String := do
  let j ← Build.ofExcept (Json.ofValue (.dict (← r.jsonEntries activate now)))
  return j.toLine

end Record

variable (activate : Body → Value → Build Unit)

def Formatter.line (f : Formatter) (now : Moment) (r : Record) : Build String :=
  match f with
  | .human colors timestamps =>
    r.humanLine activate colors (if timestamps then some now.time else none)
  | .verbose colors => r.humanLine activate colors (some now.time)
  | .json => r.jsonLine activate now

end Stylesheet.Log
