import Stylesheet.Text.Lines

namespace Stylesheet

inductive Root where
  | relative
  | slash
  | doubleSlash
deriving DecidableEq, Inhabited

def Root.text : Root → String
  | .relative => ""
  | .slash => "/"
  | .doubleSlash => "//"

/-- Names are kept as written, `..` among them. -/
structure Path where
  root : Root := .relative
  names : List String := []
deriving DecidableEq, Inhabited

namespace Path

def splitNames (s : String) : List String :=
  go [] s.toList
where
  go (name : List Char) : List Char → List String
    | [] => [String.ofList name.reverse]
    | '/' :: rest => String.ofList name.reverse :: go [] rest
    | c :: rest => go (c :: name) rest

/-- Exactly two leading slashes are a root of their own. -/
def rootOf : List Char → Root
  | '/' :: '/' :: '/' :: _ => .slash
  | '/' :: '/' :: _ => .doubleSlash
  | '/' :: _ => .slash
  | _ => .relative

def ofString (s : String) : Path :=
  ⟨rootOf s.toList, (splitNames s).filter fun n ↦ n != "" && n != "."⟩

def toString (p : Path) : String :=
  if p.root = .relative ∧ p.names = [] then "." else p.root.text ++ Text.join "/" p.names

instance : ToString Path := ⟨toString⟩

def isAbsolute (p : Path) : Bool := p.root != .relative

def join (p q : Path) : Path := if q.isAbsolute then q else ⟨p.root, p.names ++ q.names⟩

def child (p : Path) (name : String) : Path := ⟨p.root, p.names ++ [name]⟩

def lastName (p : Path) : String := p.names.getLastD ""

def parent (p : Path) : Path := ⟨p.root, p.names.dropLast⟩

def withoutBacksteps (names : List String) : List String :=
  names.foldl (fun kept n ↦ if n = ".." then kept.dropLast else kept ++ [n]) []

def resolve (base p : Path) : Path :=
  let full := base.join p
  ⟨full.root, withoutBacksteps full.names⟩

end Path

end Stylesheet
