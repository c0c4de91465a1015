import Stylesheet.Value.Shown
import Stylesheet.Fault

namespace Stylesheet

/-- What one write has put on a sheet. Lines know the depth at which they were written, and a line
that declares a variable the name that it was declared by. -/
inductive Chunk where
  | line (depth : Int) (words : String)
  | assignment (depth : Int) (name : Value) (token shown : String)
  | opening (depth : Int) (heading : String)
  | closing (depth : Int)
  | raw (words : String)
deriving Inhabited

namespace Chunk

def indent (depth : Int) : String := "".pushn ' ' (2 * depth.toNat)

theorem toList_pushn (s : String) (c : Char) (n : Nat) :
    (s.pushn c n).toList = s.toList ++ List.replicate n c := by
  induction n with
  | zero => simp [String.pushn, Nat.repeat]
  | succ n ih =>
    rw [String.pushn] at ih
    simp [String.pushn, Nat.repeat, ih, List.replicate_succ']

theorem toList_indent (depth : Int) :
    (indent depth).toList = List.replicate (2 * depth.toNat) ' ' := by
  simp [indent, toList_pushn]

def lineAt (depth : Int) (line : String) : String := indent depth ++ line ++ "\n"

def text : Chunk → String
  | .line depth words => lineAt depth words
  | .assignment depth _ token shown => lineAt depth (token ++ ": " ++ shown ++ ";")
  | .opening depth heading => lineAt depth (heading ++ " \x7b")
  | .closing depth => lineAt depth "\x7d"
  | .raw words => words

end Chunk

/-- `tokens` are the references to variables by the variables' names, in order of declaration. -/
structure Sheet where
  body : Option Body := none
  chunks : List Chunk := []
  indentation : Int := 0
  tokens : Table String String := []
  output : Option String := none
  rendering : Bool := false
deriving Inhabited

namespace Sheet

def isFinished (s : Sheet) : Bool := s.output.isSome

def append (s : Sheet) (chunk : Chunk) : Sheet := { s with chunks := s.chunks ++ [chunk] }

def write (s : Sheet) (chunkAt : Int → Chunk) : Sheet := s.append (chunkAt s.indentation)

def deepen (s : Sheet) : Sheet := { s with indentation := s.indentation + 1 }

def rise (s : Sheet) : Sheet := { s with indentation := s.indentation - 1 }

def assign (s : Sheet) (name token : String) : Sheet :=
  { s with tokens := s.tokens.set name token }

def start (s : Sheet) : Sheet := { s with rendering := true }

/-- Leaves a failed rendering: what was written is dropped. -/
def abandon (s : Sheet) : Sheet :=
  { s with chunks := [], tokens := [], indentation := 0, rendering := false }

def document (s : Sheet) : String := String.join (s.chunks.map Chunk.text)

def finish (s : Sheet) : Sheet := { s with rendering := false, output := some s.document }

def shown (s : Sheet) : String :=
  "Renderer(" ++ (if s.isFinished then "finalized" else "pending") ++ ", chunks=" ++
    Number.intText s.chunks.length ++ ")"

end Sheet

end Stylesheet
