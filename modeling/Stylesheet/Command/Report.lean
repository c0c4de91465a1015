import Stylesheet.Command.Invocation
import Stylesheet.Config.Reference
import Stylesheet.Builder.Run

namespace Stylesheet.Command

inductive Ending where
  | done
  | failed
  | misused
  | interrupted
  | aborted
  | stopped (text : String)
  | crashed (f : Fault)
deriving Inhabited

namespace Ending

/-- Errors that ask to end the program do so, as does the end of what is read; any other error is let
through. -/
def ofFault (f : Fault) : Ending :=
  match f with
  | .asked "SystemExit" none => .done
  | .asked "SystemExit" (some text) => .stopped text
  | .asked "KeyboardInterrupt" _ => .interrupted
  | .asked "EOFError" _ => .aborted
  | _ => .crashed f

def notice : Ending → String
  | .aborted => "\nAborted.\n"
  | _ => ""

end Ending

structure World where
  files : Files.Tree := {}
  environment : Environment := []
  compiler : Compiler := {}
deriving Inhabited

def World.studio (w : World) : Studio := { files := w.files, compiler := w.compiler }

/-- What a command leaves: how it has ended, what it has printed, and the studio it has worked in. -/
structure Report where
  ending : Ending := .done
  printed : String := ""
  setup : Log.Setup := {}
  studio : Studio := {}
deriving Inhabited

def Report.logged (r : Report) (now : Log.Moment) : String :=
  let lines := match ((r.setup.outputs Builder.activate now r.studio.records).run.run r.studio).1 with
    | .ok output => output.handled
    | .error _ => ""
  lines ++ r.ending.notice

structure Stop where
  ending : Ending
  printed : String := ""
deriving Inhabited

abbrev Act (α : Type) := ExceptT Stop (StateM Studio) α

namespace Act

def log (r : Log.Record) : Act Unit := modify fun s ↦ s.record r

def note (level : Log.Level) (message : String) : Act Unit :=
  log (.plain Log.mainLogger level message)

def stop {α : Type} (e : Ending) : Act α := throw { ending := e }

def fail {α : Type} (message : String) : Act α := do
  note Log.error message
  stop .failed

/-- Does one stage of a command. A fault that `report` has a message for ends the command with it; any
other fault is let through. -/
def stage {α : Type} (m : Build α) (report : Fault → Option String) : Act α :=
  ExceptT.mk do
    match ← m.run with
    | .ok a => return .ok a
    | .error f =>
      match report f with
      | some message => (fail message).run
      | none => return .error { ending := .ofFault f }

def plainly {α : Type} (m : Build α) : Act α := stage m fun _ ↦ none

def ofExcept {α : Type} (e : Except Fault α) : Act α := plainly (Build.ofExcept e)

end Act

end Stylesheet.Command
