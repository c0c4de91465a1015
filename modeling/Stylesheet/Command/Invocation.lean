import Stylesheet.Command.Options
import Stylesheet.Log.Setup

namespace Stylesheet.Command

/-- What arguments come to. A wish to be shown something wins over all else. -/
inductive Demand (α : Type) where
  | run (a : α)
  | version
  | help
  | misuse

structure Invocation where
  switches : Log.Switches := {}
  config : Option String := none
  task : Option String := none
  arguments : List String := []
deriving Inhabited

structure BuildOptions where
  script : String
  output : Option String := none
  includes : List String := []
  compress : Option Bool := none
  sassOnly : Bool := false
deriving Inhabited

structure InitOptions where
  folder : String := "."
  force : Bool := false
deriving Inhabited

inductive Task where
  | build (options : BuildOptions)
  | check (json : Bool)
  | init (options : InitOptions)
deriving Inhabited

def helpRule : Rule := ⟨"--help", none, false⟩

namespace Invocation

def rules : List Rule :=
  [⟨"--config", some 'c', true⟩, ⟨"--verbose", some 'v', false⟩, ⟨"--quiet", some 'q', false⟩,
    ⟨"--ci", none, false⟩, ⟨"--version", none, false⟩, helpRule]

def ofParsed (p : Parsed) : Invocation where
  switches := ⟨p.has "--verbose", p.has "--quiet", p.has "--ci"⟩
  config := p.value? "--config"
  task := p.arguments.head?
  arguments := p.arguments.tail

def ofArguments (args : List String) : Demand Invocation :=
  if args.isEmpty then .misuse
  else match parse rules false none args with
    | none => .misuse
    | some p =>
      match p.first? ["--version", "--help"] with
      | some word => if word = "--version" then .version else .help
      | none => .run (ofParsed p)

end Invocation

namespace Task

def names : List String := ["build", "check", "init"]

def rules (name : String) : List Rule :=
  let own : List Rule := match name with
    | "build" =>
      [⟨"--output", some 'o', true⟩, ⟨"--include", some 'i', true⟩, ⟨"--compress", none, false⟩,
        ⟨"--expanded", none, false⟩, ⟨"--sass", none, false⟩]
    | "check" => [⟨"--json", none, false⟩]
    | "init" => [⟨"--dir", some 'd', true⟩, ⟨"--force", some 'f', false⟩]
    | _ => []
  own ++ [helpRule]

def ofParsed (name : String) (p : Parsed) : Demand Task :=
  match name, p.arguments with
  | "build", [script] =>
    .run (.build { script, output := p.value? "--output", includes := p.values "--include",
                   compress := (p.last? ["--compress", "--expanded"]).map (· == "--compress"),
                   sassOnly := p.has "--sass" })
  | "check", [] => .run (.check (p.has "--json"))
  | "init", [] =>
    .run (.init { folder := (p.value? "--dir").getD ".", force := p.has "--force" })
  | _, _ => .misuse

def ofArguments (name : String) (args : List String) : Demand Task :=
  match parse (rules name) true none args with
  | none => .misuse
  | some p => if p.has helpRule.word then .help else ofParsed name p

end Task

end Stylesheet.Command
