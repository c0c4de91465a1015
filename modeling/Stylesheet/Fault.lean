import Stylesheet.Files.Tree
import Stylesheet.Number.Numeral
import Stylesheet.Text.Flaw

namespace Stylesheet

inductive Fault where
  /-- A write to a sheet whose text is finished. -/
  | finished
  /-- A sheet's text asked for while its body runs. -/
  | rendering
  | misplacedBody (shown : String)
  | unknownAttribute (owner name : String)
  | unsupportedInclude (typeName : String)
  | unloadable (path reason : String)
  | unsetVariable (name : String)
  | notAList (key typeName : String)
  | negativePrecision (shown : String)
  | configMissing (path : String)
  | configNotMapping (path : String)
  | duplicateWord (method first second : String)
  /-- An error that a program or a compiler asks for. -/
  | asked (kind : String) (text : Option String)
  | wrongType (text : String)
  | wrongValue (text : String)
  | overflow (text : String)
  /-- A numeral that is too long to be read. -/
  | tooManyDigits (digits : Nat)
  /-- An integer that is too long to be written. -/
  | unwritable
  /-- A character asked for of a text that is too short. -/
  | outOfRange
  /-- The end of an iteration inside another one. -/
  | endedInside
  | missingAttribute (typeName name : String)
  | unboundName (name : String)
  /-- Bytes that are no text. -/
  | undecodable (flaw : Text.Flaw)
  | malformedYaml
  | tooDeep
  | files (trouble : Files.Trouble) (path : String)
deriving Inhabited

namespace Fault

def troubleKind : Files.Trouble → String
  | .missing => "FileNotFoundError"
  | .notAFolder => "NotADirectoryError"
  | .isAFolder => "IsADirectoryError"
  | .alreadyThere => "FileExistsError"
  | .nameTooLong => "OSError"
  | .nulInName => "ValueError"

def troubleText : Files.Trouble → String
  | .missing => "[Errno 2] No such file or directory"
  | .notAFolder => "[Errno 20] Not a directory"
  | .isAFolder => "[Errno 21] Is a directory"
  | .alreadyThere => "[Errno 17] File exists"
  | .nameTooLong => "[Errno 36] File name too long"
  | .nulInName => "embedded null byte"

/-- Some kinds have a second name. -/
def properKind (kind : String) : String :=
  if kind = "IOError" ∨ kind = "EnvironmentError" then "OSError" else kind

def kind : Fault → String
  | .finished => "RendererFinalizedError"
  | .rendering => "RuntimeError"
  | .misplacedBody _ => "TypeError"
  | .unknownAttribute _ _ => "AttributeError"
  | .unsupportedInclude _ => "UnsupportedIncludeTypeError"
  | .unloadable _ _ => "ScriptLoadError"
  | .unsetVariable _ => "ValueError"
  | .notAList _ _ => "ValueError"
  | .negativePrecision _ => "ValueError"
  | .configMissing _ => "FileNotFoundError"
  | .configNotMapping _ => "ValueError"
  | .duplicateWord _ _ _ => "ValueError"
  | .asked kind _ => properKind kind
  | .wrongType _ => "TypeError"
  | .wrongValue _ => "ValueError"
  | .overflow _ => "OverflowError"
  | .tooManyDigits _ => "ValueError"
  | .unwritable => "ValueError"
  | .outOfRange => "IndexError"
  | .endedInside => "RuntimeError"
  | .missingAttribute _ _ => "AttributeError"
  | .unboundName _ => "KeyError"
  | .undecodable _ => "UnicodeDecodeError"
  | .malformedYaml => "YAMLError"
  | .tooDeep => "RecursionError"
  | .files trouble _ => troubleKind trouble

def finishedText : String := "Renderer output already finalized; create a new Renderer"

def unsupportedText (typeName : String) : String := "Unsupported include type: " ++ typeName

def requestKinds : List String :=
  ["AssertionError", "AttributeError", "BaseException", "CompilationError", "FileNotFoundError",
    "IsADirectoryError", "KeyError", "KeyboardInterrupt", "NotADirectoryError", "OSError",
    "Py2SassError", "RendererFinalizedError", "RuntimeError", "ScriptLoadError", "SystemExit",
    "TypeError", "UnicodeDecodeError", "UnsupportedIncludeTypeError", "ValueError", "YAMLError"]

def partedKinds : List String := ["ScriptLoadError", "UnicodeDecodeError"]

/-- The error that the text of a program asks for. A kind that is not known is looked up in vain, and
one that needs other parts cannot be had. -/
def ofRequest (kind : String) (text : Option String) : Fault :=
  if !requestKinds.contains kind then .unboundName kind
  else if partedKinds.contains kind ∨ (kind = "UnsupportedIncludeTypeError" ∧ text.isNone) then
    .wrongType (kind ++ " has other parts")
  else .asked kind text

/-- Kinds of errors of programs as texts. They miss a text that is not given. -/
def wordingKinds : List String := ["SyntaxError", "IndentationError", "TabError"]

def lacksWording : Fault → Bool
  | .asked kind text => wordingKinds.contains kind && text.getD "" == ""
  | _ => false

def askedText : (kind : String) → Option String → String
  | "KeyError", some text => Text.quoted text
  | "RendererFinalizedError", text => if text.getD "" = "" then finishedText else text.getD ""
  | "UnsupportedIncludeTypeError", some _ => unsupportedText "str"
  | kind, none => if wordingKinds.contains kind then "None" else ""
  | _, some text => text

def text : Fault → String
  | .finished => finishedText
  | .rendering => "to_sass() called while the stylesheet body is running"
  | .misplacedBody shown =>
    "Block body must be the last argument, got callable " ++ shown ++ " before it"
  | .unknownAttribute owner name =>
    Text.quoted owner ++ " object has no attribute " ++ Text.quoted name
  | .unsupportedInclude typeName => unsupportedText typeName
  | .unloadable path reason => "Failed to load stylesheet script " ++ path ++ ": " ++ reason
  | .unsetVariable name => "Environment variable not set: " ++ name
  | .notAList key typeName => key ++ " must be a list (got " ++ typeName ++ ")"
  | .negativePrecision shown => "compile.precision must be >= 0 (got " ++ shown ++ ")"
  | .configMissing path => "Config file not found: " ++ path
  | .configNotMapping path => "Config file must contain a mapping: " ++ path
  | .duplicateWord method first second =>
    "Duplicate vocabulary method name: " ++ method ++ " (" ++ Text.quoted first ++ " and " ++
      Text.quoted second ++ ")"
  | .asked kind text => askedText kind text
  | .wrongType text => text
  | .wrongValue text => text
  | .overflow text => text
  | .tooManyDigits digits =>
    let limit := Number.intText Number.longestNumeral
    "Exceeds the limit (" ++ limit ++ " digits) for integer string conversion: value has " ++
      Number.intText digits ++ " digits; use sys.set_int_max_str_digits() to increase the limit"
  | .unwritable =>
    "Exceeds the limit (" ++ Number.intText Number.longestNumeral ++ " digits) for integer string " ++
      "conversion; use sys.set_int_max_str_digits() to increase the limit"
  | .outOfRange => "string index out of range"
  | .endedInside => "generator raised StopIteration"
  | .missingAttribute typeName name =>
    Text.quoted typeName ++ " object has no attribute " ++ Text.quoted name
  | .unboundName name => Text.quoted name
  | .undecodable flaw => flaw.text
  | .malformedYaml => "malformed YAML"
  | .tooDeep => "maximum recursion depth exceeded"
  | .files .nulInName _ => troubleText .nulInName
  | .files trouble path => troubleText trouble ++ ": " ++ Text.quoted path

def longestShown : Nat := 200

def badLiteral (base : Nat) (shown : String) : Fault :=
  .wrongValue ("invalid literal for int() with base " ++ Number.intText base ++ ": " ++
    String.ofList (shown.toList.take longestShown))

def ofRefusal (shown : String) : Number.Refusal → Fault
  | .tooLong digits => .tooManyDigits digits
  | .malformed => badLiteral 10 shown

def notCallable (typeName : String) : Fault :=
  .wrongType (Text.quoted typeName ++ " object is not callable")

def ofBytes (bytes : ByteArray) : Fault :=
  .undecodable ((Text.Flaw.find? bytes.toList).getD default)

def isWorded : Fault → Bool
  | .wrongType _ | .wrongValue _ | .overflow _ | .missingAttribute _ _ | .unboundName _
  | .tooManyDigits _ | .unwritable | .outOfRange | .endedInside | .undecodable _ | .malformedYaml | .tooDeep
  | .files _ _ => false
  | _ => true

def stopKinds : List String := ["BaseException", "SystemExit", "KeyboardInterrupt", "GeneratorExit"]

def isTooDeep (f : Fault) : Bool := f.kind == "RecursionError"

def isError (f : Fault) : Bool := !stopKinds.contains f.kind

def deviceKinds : List String :=
  ["OSError", "FileNotFoundError", "NotADirectoryError", "IsADirectoryError", "FileExistsError",
    "PermissionError", "InterruptedError", "TimeoutError", "BlockingIOError", "ChildProcessError",
    "ConnectionError", "BrokenPipeError", "ConnectionAbortedError", "ConnectionRefusedError",
    "ConnectionResetError", "ProcessLookupError"]

def isDevice (f : Fault) : Bool := deviceKinds.contains f.kind

def ownKinds : List String :=
  ["Py2SassError", "UnsupportedIncludeTypeError", "RendererFinalizedError", "ScriptLoadError"]

def isOwn (f : Fault) : Bool := ownKinds.contains f.kind

def className (f : Fault) : String := if f.kind = "CompilationError" then "CompileError" else f.kind

def origin (f : Fault) : String :=
  if f.isOwn then "py2sass.exceptions."
  else if f.kind = "CompilationError" then "sass."
  else if f.kind = "YAMLError" then "yaml.error."
  else ""

def isCompilation (f : Fault) : Bool := f.kind == "CompilationError"

end Fault

end Stylesheet
