import Stylesheet.Command.Report
import Stylesheet.Config.File
import Stylesheet.Preflight
import Stylesheet.Script
import Stylesheet.Text.Terminal

namespace Stylesheet.Command

/-- The path that an argument names, and what stands there. No path holds the character NUL. -/
def standing (argument : String) : Act (Path × Option Files.Node) := do
  let path := Path.ofString argument
  match (← get).files.find path.toString with
  | .ok n => return (path, some n)
  | .error .nulInName => Act.stop .misused
  | .error _ => return (path, none)

def requireFile (argument : String) : Act Path := do
  match ← standing argument with
  | (path, some (.file _)) => return path
  | _ => Act.stop .misused

def ensureAbove (files : Files.Tree) (path : Path) : Except Fault Files.Tree :=
  (files.ensureFolder path.parent).mapError (.files · path.parent.toString)

def writeBelow (files : Files.Tree) (path : Path) (content : String) : Except Fault Files.Tree := do
  (← ensureAbove files path).writeText path.toString content

namespace BuildOptions

def loadReport (f : Fault) : Option String :=
  match f with
  | .unloadable _ _ => some f.text
  | _ => none

def renderReport (f : Fault) : Option String :=
  if f.isError then some ("Stylesheet script failed: " ++ f.className ++ ": " ++ f.text) else none

def compileReport (f : Fault) : Option String :=
  if f.isCompilation then some ("Compilation failed:\n" ++ f.text)
  else if f.isOwn || f.isDevice then some ("Failed to resolve includes: " ++ f.text)
  else none

def includePaths (files : Files.Tree) (c : Config) (script : Path) : List Value :=
  .text (files.homePath.resolve script.parent).toString :: c.compile.includePaths

def job (o : BuildOptions) (files : Files.Tree) (c : Config) (script : Path) (document : String) :
    Compiler.Job where
  document := document
  includes := .list (c.compile.includes ++ o.includes.map .text)
  compress := match o.compress with
    | some b => .bool b
    | none => c.compile.compress
  engine := Engine.installed (includePaths files c script) c.compile.precision

def destination (o : BuildOptions) (c : Config) : Except Fault (Option Path) :=
  match o.output with
  | some path => .ok (some (Path.ofString path))
  | none =>
    match c.outputPath with
    | .atom (.text s) => .ok (if s = "" then none else some (Path.ofString s))
    | v =>
      if v.isTruthy then .error (.wrongType ("no path can be made of a " ++ v.typeName)) else .ok none

def writtenRecord (form : String) (path : Path) (content : String) : Log.Record where
  level := Log.info
  template := .text ("Wrote " ++ form ++ " to " ++ path.toString ++ " (" ++
    Number.intText content.length ++ " characters)")
  fields := .dict [(.text "path", .text path.toString), (.text "format", .text form.toLower),
    (.text "characters", .int content.length)]

/-- Prints the content, or writes it to its destination. Only a text can be written. -/
def deliver (o : BuildOptions) (c : Config) (content : Value) : Act String := do
  match ← Act.ofExcept (o.destination c), content with
  | none, content =>
    if content.isWritable then return Text.withoutControls content.plain
    else Act.ofExcept (.error .unwritable)
  | some path, .atom (.text content) =>
    let files ← Act.ofExcept (writeBelow (← get).files path content)
    modify fun s ↦ { s with files }
    Act.log (writtenRecord (if o.sassOnly then "SCSS" else "CSS") path content)
    return ""
  | some path, content =>
    let files ← Act.ofExcept (ensureAbove (← get).files path)
    modify fun s ↦ { s with files }
    Act.ofExcept (.error (.wrongType ("data must be str, not " ++ content.typeName)))

def perform (o : BuildOptions) (c : Config) : Act String := do
  let script ← requireFile o.script
  if let some path := o.output then
    let _ ← standing path
  let sheet ← Act.stage (Script.load script Script.entryName) loadReport
  let document ← Act.stage (Builder.render Builder.activate sheet) renderReport
  let content ←
    if o.sassOnly then pure (.text document)
    else
      let files := (← get).files
      Act.stage ((o.job files c script document).run Builder.activate) compileReport
  o.deliver c content

end BuildOptions

def checkCompiler (json : Bool) : Act String := do
  let report ← Act.plainly Preflight.run
  let printed := Text.withoutControls (← Act.ofExcept (report.shown json))
  if report.success then return printed else throw { ending := .failed, printed }

/-- Writes the default configuration into a folder. A file that is there is kept, unless forced. -/
def InitOptions.perform (o : InitOptions) : Act String := do
  let (folder, node?) ← standing o.folder
  if node? matches some (.file _) then Act.stop .misused
  let path := folder.child Config.fileName
  let files := (← get).files
  if (← Act.ofExcept (files.holds path)) && !o.force then
    Act.fail ("Config file already exists: " ++ path.toString ++ " (use --force to overwrite)")
  let files ← Act.ofExcept (writeBelow files path Config.defaultText)
  modify fun s ↦ { s with files }
  Act.note Log.info ("Created " ++ path.toString)
  return ""

def Task.perform (c : Config) : Task → Act String
  | .build o => o.perform c
  | .check json => checkCompiler json
  | .init o => o.perform

end Stylesheet.Command
