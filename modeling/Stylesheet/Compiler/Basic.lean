import Stylesheet.Value

namespace Stylesheet

inductive Style where
  | expanded
  | compressed
deriving DecidableEq, Inhabited

namespace Style

def text : Style → String
  | .expanded => "expanded"
  | .compressed => "compressed"

def ofText? : String → Option Style
  | "expanded" => some .expanded
  | "compressed" => some .compressed
  | _ => none

def ofCompress (compress : Bool) : Style := if compress then .compressed else .expanded

end Style

/-- An installed compiler. A trial rule fails if it is broken; any other source gives the error, if
there is one, and the result otherwise. -/
structure Compiler where
  libraryVersion : Value := .none
  packageVersion : Value := .none
  isBroken : Bool := false
  error : Option Fault := none
  result : Value := .text "/* css */\n"
  isMissing : Bool := false
  origin : Value := .text "/lib/sass.py"
deriving Inhabited

inductive Request where
  | trial (source : String)
  | full (source : String) (style : Style) (includePaths : List Value) (precision : Value)
  | bare (source : String) (style : Style)
deriving Inhabited

end Stylesheet
