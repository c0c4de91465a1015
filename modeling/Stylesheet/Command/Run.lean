import Stylesheet.Command.Perform

namespace Stylesheet.Command

def version : String := "py2sass 0.1.0\n"

def usage : String :=
  "Usage: py2sass [--config FILE] [--verbose] [--quiet] [--ci] [--version] build|check|init ...\n"

def configReport (f : Fault) : Option String :=
  match f with
  | .configMissing _ => some f.text
  | _ => if f.isError then some ("Failed to load config: " ++ f.text) else none

def loadConfig (env : Environment) (given : Option Path) : Act Config := do
  let files := (← get).files
  let c ← Act.stage (Stylesheet.Build.ofExcept (Config.load files env given true)) configReport
  match c.source with
  | some path => Act.note Log.debug ("Loaded config from: " ++ path.toString)
  | none => pure ()
  return c

def demanded {α : Type} (d : Demand α) (run : α → Act String) : Act String :=
  match d with
  | .run a => run a
  | .version => return version
  | .help => return usage
  | .misuse => Act.stop .misused

/-- Performs the task. What names no task may still be an option of the program, behind the mark that
ends its options; then the wish to be shown something is all that it can hold. -/
def perform (env : Environment) (i : Invocation) : Act String := do
  let given ← match i.config with
    | some path => some <$> requireFile path
    | none => pure none
  match i.task with
  | none => Act.stop .misused
  | some name =>
    if Task.names.contains name then
      let c ← loadConfig env given
      demanded (Task.ofArguments name i.arguments) (Task.perform c)
    else demanded (Invocation.ofArguments (name :: i.arguments)) fun _ ↦ Act.stop .misused

def switchesOf : Demand Invocation → Log.Switches
  | .run i => i.switches
  | _ => {}

def run (w : World) (isTerminal : Bool) (args : List String) : Report :=
  let demand := Invocation.ofArguments args
  let setup := Log.Setup.ofSwitches (switchesOf demand) isTerminal
  match (demanded demand (perform w.environment)).run.run w.studio with
  | (.ok printed, studio) => { ending := .done, printed, setup, studio }
  | (.error stop, studio) => { ending := stop.ending, printed := stop.printed, setup, studio }

end Stylesheet.Command
