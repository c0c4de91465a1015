import Stylesheet.Value.Shown
import Stylesheet.Fault
import Stylesheet.Path

namespace Stylesheet

structure CompileSettings where
  compress : Value := .bool false
  includes : List Value := []
  includePaths : List Value := []
  precision : Value := .int 5
deriving Inhabited

structure Config where
  outputPath : Value := .none
  compile : CompileSettings := {}
  /-- The file that the configuration was loaded from. -/
  source : Option Path := none
deriving Inhabited

namespace CompileSettings

def listOf (key : String) : Value → Except Fault (List Value)
  | .list items => .ok items
  | v => .error (.notAList key v.typeName)

def isBelowZero : Value → Except Fault Bool
  | .atom (.int n) => .ok (n < 0)
  | .atom (.bool _) => .ok false
  | .atom (.float x) => .ok x.isNegative
  | .nan _ => .ok false
  | v => .error (.wrongType ("no order between " ++ v.typeName ++ " and int"))

def belowZero (precision : Value) : Fault :=
  match precision with
  | .atom (.int n) =>
    if Number.isWritable n then .negativePrecision (Number.intText n) else .unwritable
  | v => .negativePrecision (v.shown fun _ ↦ "")

def make (compress includes includePaths precision : Value) : Except Fault CompileSettings := do
  let includes ← listOf "compile.include" includes
  let includePaths ← listOf "compile.include_paths" includePaths
  if ← isBelowZero precision then throw (belowZero precision)
  return { compress, includes, includePaths, precision }

def ofNamed (named : Table String Value) : Except Fault CompileSettings :=
  if named.all fun (name, _) ↦ ["compress", "include", "include_paths", "precision"].contains name
  then
    let value (name : String) (default : Value) := (named.get? name).getD default
    make (value "compress" (.bool false)) (value "include" (.list []))
      (value "include_paths" (.list [])) (value "precision" (.int 5))
  else .error (.wrongType "unexpected keyword argument")

end CompileSettings

namespace Config

def shown (sheetShown : SheetId → String) (c : Config) : Except Fault String :=
  let text (v : Value) := v.shown sheetShown
  if !Value.areAllWritable [c.outputPath, c.compile.compress, .list c.compile.includes,
    .list c.compile.includePaths, c.compile.precision] then .error .unwritable
  else .ok <| "Py2SassConfig(output=OutputConfig(path=" ++ text c.outputPath ++
    "), compile=CompileConfig(compress=" ++ text c.compile.compress ++
    ", include=" ++ text (.list c.compile.includes) ++
    ", include_paths=" ++ text (.list c.compile.includePaths) ++
    ", precision=" ++ text c.compile.precision ++ "))"

end Config

end Stylesheet
