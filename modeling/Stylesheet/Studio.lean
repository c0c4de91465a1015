import Stylesheet.Compiler.Basic
import Stylesheet.Log.Record
import Stylesheet.Sheet

namespace Stylesheet

inductive Content where
  | text (s : String)
  | bytes (b : ByteArray)
deriving Inhabited

/-- The lines of a content, each with its line end. In bytes only line feeds end lines. -/
def Content.lines : Content → List Value
  | .text s => (Text.anyLinesOf s.toList).map fun l ↦ .text (String.ofList l)
  | .bytes b =>
    (Text.linesOf (b.toList.map fun x ↦ Char.ofNat x.toNat)).map fun l ↦
      .atom (.bytes ⟨(l.map fun c ↦ UInt8.ofNat c.toNat).toArray⟩)

/-- A stream gives its content once; after that it is at its end. -/
structure Stream where
  content : Content
  isSpent : Bool := false
deriving Inhabited

inductive Outcome where
  | returned (v : Value)
  | object (shown : String)
  | compiled (v : Value) (requests : List Request)
  | failed (f : Fault)
  | caught (f : Fault)
  | requested (requests : List Request)
deriving Inhabited

/-- An outcome with the depth of the root sheet at that moment and whether it was finished. -/
structure Entry where
  outcome : Outcome
  indentation : Int
  isFinished : Bool
deriving Inhabited

structure Studio where
  sheets : List Sheet := []
  streams : List Stream := []
  names : Table String Value := []
  failures : Table Nat Nat := []
  files : Files.Tree := {}
  compiler : Compiler := {}
  requests : List Request := []
  /-- The newest entry comes first. -/
  trace : List Entry := []
  /-- How many identities have been given to values. -/
  identities : Nat := 0
  records : List Log.Record := []
deriving Inhabited

namespace Studio

def rootSheet : SheetId := 0

def sheet (s : Studio) (id : SheetId) : Sheet := s.sheets.getD id {}

def updateSheet (s : Studio) (id : SheetId) (f : Sheet → Sheet) : Studio :=
  { s with sheets := s.sheets.modify id f }

def sheetShown (s : Studio) (id : SheetId) : String := (s.sheet id).shown

def shown (s : Studio) (v : Value) : String := v.shown s.sheetShown

def note (s : Studio) (o : Outcome) : Studio :=
  let root := s.sheet rootSheet
  { s with trace := ⟨o, root.indentation, root.isFinished⟩ :: s.trace }

def record (s : Studio) (r : Log.Record) : Studio := { s with records := s.records ++ [r] }

end Studio

abbrev Build (α : Type) := ExceptT Fault (StateM Studio) α

namespace Build

def sheet (id : SheetId) : Build Sheet := return (← get).sheet id

def updateSheet (id : SheetId) (f : Sheet → Sheet) : Build Unit :=
  modify fun s ↦ s.updateSheet id f

def ofExcept {α : Type} : Except Fault α → Build α
  | .ok a => pure a
  | .error e => throw e

/-- Runs `m`, then `after`, which also runs if `m` fails. -/
def andThenAlways {α : Type} (m : Build α) (after : Studio → Studio) : Build α :=
  ExceptT.mk do
    let r ← m.run
    modify after
    return r

def ifItFails {α : Type} (m : Build α) (after : Studio → Studio) : Build α :=
  ExceptT.mk do
    let r ← m.run
    match r with
    | .ok a => return .ok a
    | .error e =>
      modify after
      return .error e

def outcome {α : Type} (m : Build α) : Build (Except Fault α) :=
  ExceptT.mk do
    let r ← m.run
    return .ok r

def newIdentity : Build Identity := do
  let s ← get
  set { s with identities := s.identities + 1 }
  return s.identities

def newContext (id : SheetId) : Build Value := return .context (← newIdentity) id

def newSheet (body : Option Body) : Build SheetId := do
  let s ← get
  set { s with sheets := s.sheets ++ [({ body } : Sheet)] }
  return s.sheets.length

def newStream (content : Content) : Build StreamId := do
  let s ← get
  set { s with streams := s.streams ++ [({ content } : Stream)] }
  return s.streams.length

/-- The content of a stream if it has not been read, nothing of the same kind otherwise. -/
def readStream (id : StreamId) : Build Content := do
  let s ← get
  match s.streams[id]? with
  | none => return .text ""
  | some stream =>
    set { s with streams := s.streams.set id { stream with isSpent := true } }
    if stream.isSpent then
      match stream.content with
      | .text _ => return .text ""
      | .bytes _ => return .bytes ByteArray.empty
    else return stream.content

def shown (v : Value) : Build String := do
  if v.isWritable then return (← get).shown v else throw .unwritable

def log (logger message : String) : Build Unit :=
  modify fun s ↦ s.record (.plain ("py2sass." ++ logger) Log.debug message)

end Build

end Stylesheet
