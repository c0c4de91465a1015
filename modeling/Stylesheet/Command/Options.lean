namespace Stylesheet.Command

structure Rule where
  word : String
  letter : Option Char := none
  takesValue : Bool := false
deriving Inhabited

structure Parsed where
  options : List (String × Option String) := []
  arguments : List String := []
deriving Inhabited

namespace Parsed

def has (p : Parsed) (word : String) : Bool := p.options.any fun o ↦ o.1 == word

def values (p : Parsed) (word : String) : List String :=
  (p.options.filter fun o ↦ o.1 == word).filterMap (·.2)

def value? (p : Parsed) (word : String) : Option String := (p.values word).getLast?

def first? (p : Parsed) (words : List String) : Option String :=
  (p.options.map (·.1)).find? words.contains

def last? (p : Parsed) (words : List String) : Option String :=
  (p.options.map (·.1)).reverse.find? words.contains

end Parsed

variable (rules : List Rule)

def ruleOf? (word : String) : Option Rule := rules.find? fun r ↦ r.word == word

def ruleOfLetter? (letter : Char) : Option Rule := rules.find? fun r ↦ r.letter == some letter

def splitValue (cs : List Char) : List Char × Option (List Char) :=
  match cs.dropWhile (· != '=') with
  | [] => (cs, none)
  | _ :: value => (cs.takeWhile (· != '='), some value)

abbrev Reading := List (String × Option String) × Option String

def readLetters : List Char → Option Reading
  | [] => some ([], none)
  | letter :: rest =>
    match ruleOfLetter? rules letter with
    | none => none
    | some r =>
      if r.takesValue then
        if rest.isEmpty then some ([], some r.word)
        else some ([(r.word, some (String.ofList rest))], none)
      else (readLetters rest).map fun (options, waiting) ↦ ((r.word, none) :: options, waiting)

def readOption (arg : String) : Option Reading :=
  let (word, value?) := splitValue arg.toList
  match ruleOf? rules (String.ofList word), value? with
  | some r, some value =>
    if r.takesValue then some ([(r.word, some (String.ofList value))], none) else none
  | some r, none => if r.takesValue then some ([], some r.word) else some ([(r.word, none)], none)
  | none, _ => if arg.startsWith "--" then none else readLetters rules (arg.toList.drop 1)

def isOption (arg : String) : Bool := arg.startsWith "-" && arg != "-"

/-- Reads arguments; `waiting` is an option whose value comes next. Options end at `--`, and at the
first other argument unless they are `mixed`. -/
def parse (mixed : Bool) : (waiting : Option String) → List String → Option Parsed
  | none, [] => some {}
  | some _, [] => none
  | some word, value :: rest =>
    (parse mixed none rest).map fun p ↦ { p with options := (word, some value) :: p.options }
  | none, arg :: rest =>
    if arg == "--" then some { arguments := rest }
    else if isOption arg then
      match readOption rules arg with
      | none => none
      | some (options, waiting) =>
        (parse mixed waiting rest).map fun p ↦ { p with options := options ++ p.options }
    else if mixed then
      (parse mixed none rest).map fun p ↦ { p with arguments := arg :: p.arguments }
    else some { arguments := arg :: rest }

end Stylesheet.Command
