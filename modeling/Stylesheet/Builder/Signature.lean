import Stylesheet.Fault
import Stylesheet.Value

namespace Stylesheet.Builder

structure Parameter where
  name : String
  default : Option Value := none

/-- Parameters that take arguments by position or name, whether more may follow, and parameters that
take them by name only. `owner` is what has the operation and stands before all other parameters. -/
structure Signature where
  owner : String
  name : String
  positional : List Parameter
  isVariadic : Bool := false
  named : List Parameter := []

namespace Signature

def ownerParameter : String := "self"

def plural (count : Nat) : String := if count = 1 then "" else "s"

def enumeration (names : List String) : String :=
  match names.map Text.quoted with
  | [] => ""
  | [a] => a
  | [a, b] => a ++ " and " ++ b
  | names => Text.join ", " names.dropLast ++ ", and " ++ names.getLastD ""

def complaint (s : Signature) (text : String) : Fault :=
  .wrongType (s.owner ++ "." ++ s.name ++ "() " ++ text)

def expected (s : Signature) : String :=
  let most := s.positional.length + 1
  match s.positional.countP fun p ↦ p.default.isSome with
  | 0 => Number.intText most ++ " positional argument" ++ plural most
  | optional =>
    "from " ++ Number.intText (most - optional : Nat) ++ " to " ++ Number.intText most ++
      " positional arguments"

def tooMany (s : Signature) (args : List Value) (named : List (String × Value)) : Fault :=
  let given := args.length + 1
  let counted := match named.countP fun entry ↦ s.named.any fun p ↦ p.name == entry.1 with
    | 0 => if given = 1 then " was" else " were"
    | others =>
      " positional argument" ++ plural given ++ " (and " ++ Number.intText others ++
        " keyword-only argument" ++ plural others ++ ") were"
  s.complaint ("takes " ++ s.expected ++ " but " ++ Number.intText given ++ counted ++ " given")

def missing (s : Signature) (kind : String) (names : List String) : Fault :=
  s.complaint ("missing " ++ Number.intText names.length ++ " required " ++ kind ++ " argument" ++
    plural names.length ++ ": " ++ enumeration names)

def accepts (s : Signature) (taken : List Parameter) (name : String) : Except Fault Unit :=
  if name = ownerParameter ∨ taken.any fun p ↦ p.name == name then
    .error (s.complaint ("got multiple values for argument " ++ Text.quoted name))
  else if (s.positional ++ s.named).any fun p ↦ p.name == name then .ok ()
  else .error (s.complaint ("got an unexpected keyword argument " ++ Text.quoted name))

def acceptsAll (s : Signature) (taken : List Parameter) :
    List (String × Value) → Except Fault Unit
  | [] => .ok ()
  | (name, _) :: rest =>
    match s.accepts taken name with
    | .error e => .error e
    | .ok () => s.acceptsAll taken rest

def valueOf? (named : List (String × Value)) (p : Parameter) : Option Value :=
  match named.find? fun entry ↦ entry.1 == p.name with
  | some entry => some entry.2
  | none => p.default

def fill (s : Signature) (kind : String) (named : List (String × Value)) (ps : List Parameter) :
    Except Fault (List Value) :=
  match ps.filter fun p ↦ (valueOf? named p).isNone with
  | [] => .ok (ps.filterMap (valueOf? named))
  | lacking => .error (s.missing kind (lacking.map (·.name)))

def bind (s : Signature) (args : List Value) (named : List (String × Value)) :
    Except Fault (List Value × List Value) := do
  let count := s.positional.length
  s.acceptsAll (s.positional.take args.length) named
  if !s.isVariadic && count < args.length then throw (s.tooMany args named)
  let first ← s.fill "positional" named (s.positional.drop args.length)
  let second ← s.fill "keyword-only" named s.named
  return (args.take count ++ first ++ second, args.drop count)

end Signature

end Stylesheet.Builder
