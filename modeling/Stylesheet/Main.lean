import Std.Time.Format
import Stylesheet.Command.Run

namespace Stylesheet.Command

def greatestDepth : Nat := 32

/-- Adds to a tree what stands under the name of an entry; what cannot be read is left out. -/
def addEntry (t : Files.Tree) : (depth : Nat) → (here : List String) → IO.FS.DirEntry →
    IO Files.Tree
  | 0, _, _ => return t
  | depth + 1, here, entry => do
    let names := here ++ [entry.fileName]
    try
      if ← entry.path.isDir then
        let mut t := { t with nodes := t.nodes.set names .folder }
        for inner in ← entry.path.readDir do
          t ← addEntry t depth names inner
        return t
      else
        let bytes ← IO.FS.readBinFile entry.path
        return { t with nodes := t.nodes.set names (.file bytes) }
    catch _ => return t

def picture : IO Files.Tree := do
  let folder ← IO.currentDir
  let home := (Path.ofString folder.toString).names
  let mut t : Files.Tree := { home }
  for entry in ← folder.readDir do
    t ← addEntry t greatestDepth home entry
  return t

def environment : IO Environment := do
  let bytes ← try IO.FS.readBinFile "/proc/self/environ" catch _ => pure ByteArray.empty
  let entries := ((Text.decodeUtf8? bytes).getD "").splitOn "\x00"
  return entries.filterMap fun entry ↦
    match entry.splitOn "=" with
    | name :: value :: more => some (name, "=".intercalate (value :: more))
    | _ => none

def moment (d : Std.Time.PlainDateTime) : Log.Moment :=
  ⟨d.date.year.toInt.toNat, d.date.month.toNat, d.date.day.toNat, d.time.hour.toNat,
    d.time.minute.toNat, d.time.second.toNat, d.time.nanosecond.toNat / 1000⟩

def now (setup : Log.Setup) : IO Log.Moment := do
  if setup.formatter = .json then
    let t ← Std.Time.Timestamp.now
    return moment (Std.Time.DateTime.ofTimestampWithZone t Std.Time.TimeZone.UTC).date.get
  else return moment (← Std.Time.PlainDateTime.now)

def noCompiler : Compiler where
  isMissing := true
  error := some (.asked "CompilationError" "no compiler is installed")

def carryOut (before after : Files.Tree) : IO Unit := do
  let place (l : Files.Location) : String := "/" ++ Text.join "/" l
  for (l, n) in after.nodes do
    if n matches .folder then IO.FS.createDirAll (place l)
  for (l, bytes) in before.changes after do
    IO.FS.writeBinFile (place l) bytes

def conclude (e : Ending) : IO UInt32 := do
  match e with
  | .done => return 0
  | .failed => return 1
  | .misused =>
    IO.eprint usage
    return 2
  | .interrupted => return 130
  | .aborted => return 1
  | .stopped text =>
    IO.eprintln text
    return 1
  | .crashed f =>
    IO.eprintln (f.kind ++ ": " ++ f.text)
    return 1

end Stylesheet.Command

open Stylesheet Command in
def main (args : List String) : IO UInt32 := do
  let files ← picture
  let world : World := { files, environment := ← environment, compiler := noCompiler }
  let report := run world (← (← IO.getStderr).isTty) args
  carryOut files report.studio.files
  IO.print report.printed
  IO.eprint (report.logged (← now report.setup))
  conclude report.ending
