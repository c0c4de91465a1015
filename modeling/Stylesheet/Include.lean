import Stylesheet.Builder.Block
import Stylesheet.Files.Text

namespace Stylesheet.Include

open Builder

variable (activate : Body → Value → Build Unit)

def decode (bytes : ByteArray) : Build String :=
  match Text.decodeUtf8? bytes with
  | some s => pure s
  | none => throw (.ofBytes bytes)

def readFile (path : String) : Build String := do
  Build.log "compiler" ("Reading include file: " ++ path)
  Build.ofExcept ((← get).files.readText path)

def contentOf : Value → Build String
  | .atom (.bytes b) => decode b
  | v => text activate v

/-- The source that an item stands for. A sheet and a selector context take the request to be read for
a declaration without a value and for a block. -/
def resolve : Value → Build String
  | .atom (.text s) => do
    if (← get).files.isFile s then readFile s else return s
  | .atom (.path p) => readFile p.toString
  | .textStream id => do
    match ← Build.readStream id with
    | .text s => return s
    | .bytes b => decode b
  | .byteStream id => do
    match ← Build.readStream id with
    | .text s => return s
    | .bytes b => decode b
  | .reader _ content => contentOf activate content
  | .sheet id => do
    ask activate (.sheet id) "read" []
    contentOf activate .none
  | .context n id => do
    ask activate (.context n id) "read" []
    contentOf activate .none
  | v => throw (.unsupportedInclude v.typeName)

def combine : List Value → Build String
  | [] => pure ""
  | item :: rest => do
    let first ← iterating (resolve activate item)
    return first ++ "\n" ++ (← combine rest)

/-- Nothing has no items, a list its own, and any other value is the only one. -/
def itemsOf : Value → List Value
  | .atom .none => []
  | .list items => items
  | .tuple items => items
  | v => [v]

def process (include? : Value) : Build String := combine activate (itemsOf include?)

end Stylesheet.Include
