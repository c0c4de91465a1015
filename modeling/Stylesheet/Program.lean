import Stylesheet.Fault
import Stylesheet.Number.Binary64

namespace Stylesheet

inductive Atom where
  | none
  | bool (b : Bool)
  | int (n : Int)
  | float (x : Number.Binary64)
  | text (s : String)
  | bytes (b : ByteArray)
  | path (p : Path)
deriving Inhabited

/-- The receiver of a step: what the running body was given, the root sheet, a new selector context
of the root sheet, or what a name is bound to. -/
inductive Receiver where
  | argument
  | root
  | context
  | named (name : String)
deriving Inhabited

mutual

inductive Expr where
  | atom (a : Atom)
  | list (items : List Expr)
  | tuple (items : List Expr)
  | dict (entries : List (Expr × Expr))
  | body (name : Option String) (steps : List Step)
  | sheet (body : Option (List Step))
  | textStream (content : String)
  | byteStream (content : ByteArray)
  | reader (content : Expr)
  | name (name : String)
  | root
  | argument
  /-- A form whose text writes no value. -/
  | malformed (f : Fault)

inductive Step where
  | call (on : Receiver) (name : String) (args : List Expr) (named : List (String × Expr))
      (bind : Option String)
  | get (on : Receiver) (name : String)
  | has (on : Receiver) (name : String)
  | text (on : Receiver)
  | shown (on : Receiver)
  | bind (name : String) (value : Expr)
  | fail (label : Nat) (error : Fault) (times : Option Nat)
  /-- A use that the receiver's type does not allow. -/
  | misuse (text : String)
  | attempt (steps : List Step)
  | css (on : Receiver) (include? : Option Expr) (compress : Option Expr) (result : Expr)
      (error : Option Fault)

end

instance : Inhabited Expr := ⟨.atom .none⟩

instance : Inhabited Step := ⟨.attempt []⟩

/-- The steps of a block or of a whole sheet; the name shows in messages only. -/
structure Body where
  name : Option String := none
  steps : List Step
deriving Inhabited

end Stylesheet
