import Stylesheet.Builder.Call
import Stylesheet.Builder.Text

namespace Stylesheet.Builder

variable (activate : Body → Value → Build Unit)

def checkWritable (id : SheetId) : Build Unit := do
  if (← Build.sheet id).isFinished then throw .finished

def write (id : SheetId) (chunkAt : Int → Chunk) : Build Unit := do
  checkWritable id
  Build.updateSheet id fun s ↦ s.write chunkAt

def writeLine (id : SheetId) (line : String) : Build Unit := write id (.line · line)

def arguments (args : List Value) : Build String := do
  if args.isEmpty then return ""
  return "(" ++ Text.join ", " (← texts activate args) ++ ")"

/-- A block: its opening line, what is written inside one level deeper, and its closing line. If the
inside fails, the level is left and no closing line is written. -/
def block (id : SheetId) (opening : String) (inside : Build Unit) : Build Unit := do
  write id (.opening · opening)
  Build.updateSheet id Sheet.deepen
  Build.andThenAlways inside fun s ↦ s.updateSheet id Sheet.rise
  write id .closing

def nested (id : SheetId) (opening : String) (body : Value) : Build Unit :=
  block id opening (runBody activate body (.sheet id))

def declaration (name value : Value) : Build String := do
  let property ← text activate name
  let shown ← text activate value
  return property ++ ": " ++ shown ++ ";"

def declare (id : SheetId) (name value : Value) : Build Unit := do
  writeLine id (← declaration activate name value)

def rule (id : SheetId) (selector body : Value) : Build Unit := do
  nested activate id (← text activate selector) body

/-- Asks a value for what only other values know. A sheet takes the request for a declaration and a
selector context for a block. -/
def ask (target : Value) (request : String) (args : List Value) : Build Unit := do
  match target with
  | .sheet id =>
    if let .line (.declare name value) ← Build.ofExcept (Method.declare.bind (.text request :: args) []) then
      declare activate id name value
  | .context _ id =>
    if let .block (.pseudo name) body ← Build.ofExcept (Method.pseudo.bind (.text request :: args) []) then
      rule activate id (.text ("&:" ++ (← text activate name))) body
  | v => throw (.missingAttribute v.fullTypeName request)

end Stylesheet.Builder
