import Stylesheet.Include

namespace Stylesheet

/-- What compiles a source. Not all that is taken for an engine has a name. -/
structure Engine where
  name : Build String
  compile : String → Style → Build Value

namespace Engine

def request (r : Request) : Build Unit := modify fun s ↦ { s with requests := s.requests ++ [r] }

def answer (result : Value) : Option Fault → Build Value
  | none => pure result
  | some e => throw e

def installed (includePaths : List Value) (precision : Value) : Engine where
  name := return "libsass"
  compile source style := do
    request (.full source style includePaths precision)
    let compiler := (← get).compiler
    answer compiler.result compiler.error

def defaultPrecision : Value := .int 5

def standard : Engine := installed [] defaultPrecision

def fixed (result : Value) (error : Option Fault) : Engine where
  name := return "recorder"
  compile source style := do
    request (.bare source style)
    answer result error

end Engine

namespace Compiler

structure Job where
  document : String
  includes : Value := .none
  compress : Value := .bool false
  engine : Engine

namespace Job

variable (activate : Body → Value → Build Unit)

def style (j : Job) : Style := .ofCompress j.compress.isTruthy

def source (j : Job) : Build String := return (← Include.process activate j.includes) ++ j.document

/-- What the engine makes of the source; its size is logged, so it must have one. -/
def run (j : Job) : Build Value := do
  let source ← j.source activate
  let name ← j.engine.name
  Build.log "compiler" ("Compiling " ++ Number.intText source.length ++ " characters with " ++
    name ++ " (" ++ j.style.text ++ ")")
  let css ← j.engine.compile source j.style
  match css.size? with
  | some size =>
    Build.log "compiler" ("Compiled stylesheet (" ++ Number.intText size ++ " characters)")
    return css
  | none => throw css.notSized

end Job

end Compiler

end Stylesheet
