import Stylesheet.Path
import Stylesheet.Table

namespace Stylesheet.Files

inductive Node where
  | file (bytes : ByteArray)
  | folder
deriving Inhabited

inductive Trouble where
  | missing
  | notAFolder
  | isAFolder
  | alreadyThere
  | nameTooLong
  | nulInName
deriving DecidableEq, Inhabited

/-- Where a node stands: the names from the root on. -/
abbrev Location := List String

structure Tree where
  nodes : Table Location Node := []
  home : Location := []
deriving Inhabited

namespace Tree

def node? (t : Tree) (l : Location) : Option Node :=
  if l.isPrefixOf t.home then some .folder else t.nodes.get? l

def longestName : Nat := 255

def longestPath : Nat := 4095

def step (t : Tree) (l : Location) (name : String) : Except Trouble Location :=
  match t.node? l with
  | none => .error .missing
  | some (.file _) => .error .notAFolder
  | some .folder =>
    if name = "" ∨ name = "." then .ok l
    else if name = ".." then .ok l.dropLast
    else if longestName < name.utf8ByteSize then .error .nameTooLong
    else .ok (l ++ [name])

def walk (t : Tree) (l : Location) : List String → Except Trouble Location
  | [] => .ok l
  | name :: rest =>
    match t.step l name with
    | .ok next => t.walk next rest
    | .error e => .error e

/-- The location that a path's text names; the node at it need not exist. -/
def locate (t : Tree) (text : String) : Except Trouble Location :=
  if text.toList.contains '\x00' then .error .nulInName
  else if text = "" then .error .missing
  else if longestPath < text.utf8ByteSize then .error .nameTooLong
  else t.walk (if text.toList.head? = some '/' then [] else t.home) (Path.splitNames text)

def find (t : Tree) (text : String) : Except Trouble Node :=
  match t.locate text with
  | .error e => .error e
  | .ok l =>
    match t.node? l with
    | none => .error .missing
    | some n => .ok n

def seek (t : Tree) (text : String) : Except Trouble (Option Node) :=
  match t.find text with
  | .ok n => .ok (some n)
  | .error .nameTooLong => .error .nameTooLong
  | .error _ => .ok none

def isFile (t : Tree) (text : String) : Bool :=
  match t.find text with
  | .ok (.file _) => true
  | _ => false

def isFolder (t : Tree) (text : String) : Bool :=
  match t.find text with
  | .ok .folder => true
  | _ => false

def read (t : Tree) (text : String) : Except Trouble ByteArray :=
  match t.find text with
  | .error e => .error e
  | .ok .folder => .error .isAFolder
  | .ok (.file bytes) => .ok bytes

def write (t : Tree) (text : String) (bytes : ByteArray) : Except Trouble Tree :=
  match t.locate text with
  | .error e => .error e
  | .ok l =>
    match t.node? l with
    | some .folder => .error .isAFolder
    | _ => .ok { t with nodes := t.nodes.set l (.file bytes) }

def makeFolder (t : Tree) (text : String) : Except Trouble Tree :=
  match t.locate text with
  | .error e => .error e
  | .ok l =>
    match t.node? l with
    | some _ => .error .alreadyThere
    | none => .ok { t with nodes := t.nodes.set l .folder }

/-- Makes the folder of a path's first `count` names, and those above it that are missing. A folder
that is there already is as good as made. -/
def makeFolders (t : Tree) (p : Path) : (count : Nat) → Except Trouble Tree
  | 0 =>
    match t.makeFolder (Path.toString ⟨p.root, []⟩) with
    | .ok t => .ok t
    | .error e => if t.isFolder (Path.toString ⟨p.root, []⟩) then .ok t else .error e
  | count + 1 =>
    let text := Path.toString ⟨p.root, p.names.take (count + 1)⟩
    match t.makeFolder text with
    | .ok t => .ok t
    | .error .missing =>
      match t.makeFolders p count with
      | .error e => .error e
      | .ok t =>
        match t.makeFolder text with
        | .ok t => .ok t
        | .error e => if t.isFolder text then .ok t else .error e
    | .error e => if t.isFolder text then .ok t else .error e

def homePath (t : Tree) : Path := ⟨.slash, t.home⟩

def ensureFolder (t : Tree) (p : Path) : Except Trouble Tree := t.makeFolders p p.names.length

def plant (t : Tree) (p : Path) (n : Node) : Tree :=
  let above := (List.range p.names.length).drop 1
  let t := above.foldl (fun t k ↦
    if (t.nodes.get? (t.home ++ p.names.take k)).isSome then t
    else { t with nodes := t.nodes.set (t.home ++ p.names.take k) .folder }) t
  { t with nodes := t.nodes.set (t.home ++ p.names) n }

def changes (before after : Tree) : Table Location ByteArray :=
  after.nodes.filterMap fun (l, n) ↦
    match n, before.node? l with
    | .folder, _ => none
    | .file b, some (.file old) => if b == old then none else some (l, b)
    | .file b, _ => some (l, b)

end Tree

end Stylesheet.Files
