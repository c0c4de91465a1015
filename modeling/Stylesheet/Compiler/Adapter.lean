import Stylesheet.Compiler.Job

namespace Stylesheet

structure Adapter where
  includePaths : List Value := []
  precision : Value := Engine.defaultPrecision
  knownVersion : Value := .none
deriving Inhabited

namespace Adapter

def name : String := "libsass"

def trialRule : String := "a\x7bb:c\x7d"

def engine (a : Adapter) : Engine := Engine.installed a.includePaths a.precision

def currentVersion (c : Compiler) : Value := c.libraryVersion.orElse c.packageVersion

def version (a : Adapter) : Build (Value × Adapter) := do
  if !a.knownVersion.isNone then return (a.knownVersion, a)
  let found := currentVersion (← get).compiler
  return (found, { a with knownVersion := found })

def isAvailable : Build Bool := do
  Engine.request (.trial trialRule)
  if (← get).compiler.isBroken then
    Build.log "compiler" "libsass self-check failed: broken"
    return false
  return true

def metadata (a : Adapter) : Build (Value × Adapter) := do
  let (version, a) ← a.version
  let available ← isAvailable
  return (.dict [(.text "name", .text name), (.text "version", version),
    (.text "available", .bool available)], a)

inductive Use where
  | name
  | precision
  | includePaths
  | version
  | currentVersion
  | isAvailable
  | metadata
  | compile (source : String) (style : Style)
  | css (source : String) (includes compress : Value) (withThis : Bool)
  | install (c : Compiler)

variable (activate : Body → Value → Build Unit)

def use (a : Adapter) : Use → Build (Value × Adapter)
  | .name => return (.text name, a)
  | .precision => return (a.precision, a)
  | .includePaths => return (.list a.includePaths, a)
  | .version => a.version
  | .currentVersion => return (currentVersion (← get).compiler, a)
  | .isAvailable => return (.bool (← isAvailable), a)
  | .metadata => a.metadata
  | .compile source style => return (← a.engine.compile source style, a)
  | .css source includes compress withThis => do
    let engine := if withThis then a.engine else Engine.standard
    return (← Compiler.Job.run activate ⟨source, includes, compress, engine⟩, a)
  | .install c => do
    modify fun s ↦ { s with compiler := c }
    return (.none, a)

def useEach (a : Adapter) : List Use → Build (List (Except Fault Value))
  | [] => pure []
  | u :: rest => do
    match ← Build.outcome (a.use activate u) with
    | .ok (v, a) => return .ok v :: (← a.useEach rest)
    | .error e => return .error e :: (← a.useEach rest)

end Adapter

end Stylesheet
