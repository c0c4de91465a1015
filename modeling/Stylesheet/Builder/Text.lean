import Stylesheet.Studio
import Stylesheet.Value.Items

namespace Stylesheet.Builder

variable (activate : Body → Value → Build Unit)

/-- Runs what stands in the place of a body: nothing does nothing, and only bodies can be run. -/
def runBody (body argument : Value) : Build Unit :=
  match body with
  | .atom .none => pure ()
  | .body _ b => activate b argument
  | v => throw (.notCallable v.fullTypeName)

def runSheetBody (id : SheetId) : Build Unit := do
  match (← Build.sheet id).body with
  | none => pure ()
  | some b => activate b (.sheet id)

def renderedMessage (sheet : Sheet) : String :=
  "Rendered stylesheet (" ++ Number.intText (sheet.output.getD "").length ++ " characters, " ++
    Number.intText sheet.tokens.length ++ " variables)"

/-- The text of a sheet. It is built once; a failure drops what was written and leaves the sheet to
be tried again. -/
def render (id : SheetId) : Build String := do
  let some sheet := (← get).sheets[id]? | throw (.unboundName (Number.intText id))
  match sheet.output with
  | some text => return text
  | none =>
    if sheet.rendering then throw .rendering
    Build.updateSheet id Sheet.start
    Build.ifItFails (runSheetBody activate id) fun s ↦ s.updateSheet id Sheet.abandon
    Build.updateSheet id Sheet.finish
    let sheet ← Build.sheet id
    Build.log "renderer" (renderedMessage sheet)
    return sheet.output.getD ""

/-- The text that a value contributes to a line: a sheet its own text, any other value its plain
form. -/
def text : Value → Build String
  | .atom a => if a.isWritable then pure a.plain else throw .unwritable
  | .sheet id => render activate id
  | v => Build.shown v

def textsInOrder : List Value → Build (List String)
  | [] => pure []
  | v :: rest => do
    let first ← text activate v
    return first :: (← textsInOrder rest)

/-- Goes through values in an iteration. The end of an iteration must not be asked for inside it. -/
def iterating {α : Type} (m : Build α) : Build α := do
  match ← Build.outcome m with
  | .ok a => return a
  | .error e => throw (if e.kind = "StopIteration" then .endedInside else e)

def texts (vs : List Value) : Build (List String) := iterating (textsInOrder activate vs)

/-- The items of a collection; a stream has its lines. -/
def items : Value → Build (List Value)
  | .textStream id => return (← Build.readStream id).lines
  | .byteStream id => return (← Build.readStream id).lines
  | v =>
    match v.items? with
    | some items => pure items
    | none => throw v.notIterable

def pair (item : Value) : Build (Value × Value) := do
  match ← items item with
  | [key, value] =>
    Build.ofExcept key.checkKey
    return (key, value)
  | _ => throw (.wrongValue "dictionary update sequence element has not two items")

def pairs : List Value → Build (List (Value × Value))
  | [] => pure []
  | item :: rest => do
    let first ← pair item
    return first :: (← pairs rest)

/-- The entries that a value adds to a dictionary: its own, or those of a collection of pairs. -/
def entries : Value → Build (List (Value × Value))
  | .dict entries => pure entries
  | v => do pairs (← items v)

end Stylesheet.Builder
