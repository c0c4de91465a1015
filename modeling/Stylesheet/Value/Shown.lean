import Stylesheet.Value
import Stylesheet.Number.Numeral
import Stylesheet.Number.Printed
import Stylesheet.Text.Quoted

namespace Stylesheet

/-- Only integers can be too long to be written. -/
def Atom.isWritable : Atom → Bool
  | .int n => Number.isWritable n
  | _ => true

def Atom.shown : Atom → String
  | .none => "None"
  | .bool b => if b then "True" else "False"
  | .int n => Number.intText n
  | .float x => x.written Number.plainStyle
  | .text s => Text.quoted s
  | .bytes b => Text.quotedBytes b
  | .path p => "PosixPath(" ++ Text.quoted p.toString ++ ")"

/-- A text and a path stand for themselves, every other atom for its shown form. -/
def Atom.plain : Atom → String
  | .text s => s
  | .path p => p.toString
  | a => a.shown

def Body.shown (b : Body) : String :=
  match b.name with
  | none => "<body>"
  | some n => "<body " ++ n ++ ">"

namespace Value

mutual

def isWritable : Value → Bool
  | .atom a => a.isWritable
  | .list items => areAllWritable items
  | .tuple items => areAllWritable items
  | .dict entries => areEntriesWritable entries
  | .set members => areAllWritable members
  | _ => true

def areAllWritable : List Value → Bool
  | [] => true
  | v :: rest => v.isWritable && areAllWritable rest

def areEntriesWritable : List (Value × Value) → Bool
  | [] => true
  | (key, item) :: rest => key.isWritable && item.isWritable && areEntriesWritable rest

end

theorem areAllWritable_iff {vs : List Value} :
    areAllWritable vs = true ↔ ∀ v ∈ vs, v.isWritable = true := by
  induction vs with
  | nil => simp [areAllWritable]
  | cons v rest ih => simp [areAllWritable, ih]

theorem areEntriesWritable_iff {entries : List (Value × Value)} :
    areEntriesWritable entries = true ↔
      ∀ e ∈ entries, e.1.isWritable = true ∧ e.2.isWritable = true := by
  induction entries with
  | nil => simp [areEntriesWritable]
  | cons e rest ih => simp [areEntriesWritable, ih]

variable (sheetShown : SheetId → String)

mutual

def shown : Value → String
  | .atom a => a.shown
  | .nan _ => Atom.shown (.float .nan)
  | .timestamp t => t.shown
  | .list items => "[" ++ Text.join ", " (shownItems items) ++ "]"
  | .tuple [item] => "(" ++ shown item ++ ",)"
  | .tuple items => "(" ++ Text.join ", " (shownItems items) ++ ")"
  | .dict entries => "\x7b" ++ Text.join ", " (shownEntries entries) ++ "\x7d"
  | .set [] => "set()"
  | .set members => "\x7b" ++ Text.join ", " (shownItems members) ++ "\x7d"
  | .body _ b => b.shown
  | .sheet id => sheetShown id
  | .context _ id => "SelectorContext(" ++ sheetShown id ++ ")"
  | .textStream _ => "<text stream>"
  | .byteStream _ => "<byte stream>"
  | .reader _ _ => "<reader>"

def shownItems : List Value → List String
  | [] => []
  | item :: rest => shown item :: shownItems rest

def shownEntries : List (Value × Value) → List String
  | [] => []
  | (key, item) :: rest => (shown key ++ ": " ++ shown item) :: shownEntries rest

end

def plain : Value → String
  | .atom a => a.plain
  | v => v.shown fun _ ↦ ""

end Value

end Stylesheet
