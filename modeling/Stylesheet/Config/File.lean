import Stylesheet.Config.Load
import Stylesheet.Files.Text
import Stylesheet.Yaml.Document

namespace Stylesheet.Config

open Files

def fileName : String := "py2sass.yaml"

def placesIn (folder : Path) : List Path :=
  [(folder.child ".py2sass").child "config.yaml", folder.child fileName]

def firstHeld (t : Tree) : List Path → Except Fault (Option Path)
  | [] => .ok none
  | p :: rest =>
    match t.holds p with
    | .error e => .error e
    | .ok true => .ok (some p)
    | .ok false => firstHeld t rest

def find (t : Tree) (folder : Path) : Except Fault (Option Path) :=
  if folder.toString.toList.contains '\x00' then .error (.files .nulInName folder.toString)
  else firstHeld t (placesIn (t.homePath.resolve folder))

def sourceOf (t : Tree) (given : Option Path) (discover : Bool) : Except Fault (Option Path) :=
  match given with
  | some p => do
    if ← t.holds p then return some p else throw (.configMissing p.toString)
  | none => if discover then find t t.homePath else .ok none

def ofFile (t : Tree) (env : Environment) (p : Path) : Except Fault Config := do
  let document ← Yaml.document (← t.readPieces p.toString)
  let data := document.value.orElse (.dict [])
  if !data.isDict then throw (.configNotMapping p.toString)
  if document.isEndless then throw .tooDeep
  let config ← ofValue env data
  return { config with source := some p }

def load (t : Tree) (env : Environment) (given : Option Path) (discover : Bool) :
    Except Fault Config := do
  match ← sourceOf t given discover with
  | some p => ofFile t env p
  | none => return {}

def defaultLines : List String := [
  "# py2sass configuration",
  "",
  "output:",
  "  # File written by \x60py2sass build\x60 (omit to write to stdout)",
  "  # path: \"build/style.css\"",
  "",
  "compile:",
  "  compress: false        # compressed or expanded output",
  "  include: []            # SCSS files or literal SCSS prepended to every build",
  "  # include:",
  "  #   - \"styles/_variables.scss\"",
  "  #   - \"$brand: $\x7bBRAND_COLOR\x7d;\"",
  "  include_paths: []      # directories searched by @import",
  "  precision: 5"]

def defaultText : String := String.join (defaultLines.map (· ++ "\n"))

end Stylesheet.Config
