import Stylesheet.Builder.Signature
import Stylesheet.Value.Known
import Stylesheet.Value.Shown
import Stylesheet.Vocabulary

namespace Stylesheet.Builder

inductive Line where
  | declare (name value : Value)
  | includeMixin (name : Value) (args : List Value)
  | importFile (path : Value)
  | extend (selector : Value)
  | returnValue (value : Value)
deriving Inhabited

inductive Heading where
  | rule (selector : Value)
  | ruleWithContext (selector : Value)
  | pseudo (name : Value)
  | directive (name : Value) (args : List Value)
  | media (queries : List Value)
  | keyframes (name : Value)
  | mixin (name : Value) (params : List Value)
  | function (name : Value) (params : List Value)
  | ifBlock (condition : Value)
  | elseIfBlock (condition : Value)
  | elseBlock
  | forLoop (counter start stop : Value)
  | eachLoop (counter items : Value)
  | whileLoop (condition : Value)
deriving Inhabited

/-- An operation with its arguments. A body that is not given is nothing. -/
inductive Call where
  | line (l : Line)
  | assign (name value : Value)
  | raw (chunk : Value)
  | block (h : Heading) (body : Value)
  | text
  | css (includes compress engine : Value)
deriving Inhabited

inductive Method where
  | declare | assign | includeMixin | importFile | extend | returnValue | raw
  | rule | ruleWithContext | directive | media | keyframes | mixin | function
  | ifBlock | elseIfBlock | elseBlock | forLoop | eachLoop | whileLoop
  | text | css | pseudo
deriving DecidableEq

namespace Method

def ofName? : String → Option Method
  | "declare" => some .declare
  | "v" => some .assign
  | "include" => some .includeMixin
  | "import_" => some .importFile
  | "extend" => some .extend
  | "return_" => some .returnValue
  | "raw" => some .raw
  | "s" => some .rule
  | "rule" => some .rule
  | "s_with_context" => some .ruleWithContext
  | "rule_with_context" => some .ruleWithContext
  | "directive" => some .directive
  | "media" => some .media
  | "keyframes" => some .keyframes
  | "mixin" => some .mixin
  | "function" => some .function
  | "if_statement" => some .ifBlock
  | "else_if_statement" => some .elseIfBlock
  | "else_statement" => some .elseBlock
  | "for_loop" => some .forLoop
  | "each_loop" => some .eachLoop
  | "while_loop" => some .whileLoop
  | "to_sass" => some .text
  | "to_css" => some .css
  | _ => none

def required (name : String) : Parameter := ⟨name, none⟩

def bodyParameter : Parameter := ⟨"body", some .none⟩

def signature : Method → Signature
  | .declare => onSheet "declare" [required "name", required "value"]
  | .assign => onSheet "v" [required "name", required "value"]
  | .includeMixin => variadic "include" [required "name"] []
  | .importFile => onSheet "import_" [required "path"]
  | .extend => onSheet "extend" [required "selector"]
  | .returnValue => onSheet "return_" [required "value"]
  | .raw => onSheet "raw" [required "text"]
  | .rule => onSheet "s" [required "selector", bodyParameter]
  | .ruleWithContext => onSheet "s_with_context" [required "selector", bodyParameter]
  | .directive => variadic "directive" [required "name"] [bodyParameter]
  | .media => variadic "media" [] [bodyParameter]
  | .keyframes => onSheet "keyframes" [required "name", bodyParameter]
  | .mixin => variadic "mixin" [required "name"] [bodyParameter]
  | .function => variadic "function" [required "name"] [bodyParameter]
  | .ifBlock => onSheet "if_statement" [required "condition", bodyParameter]
  | .elseIfBlock => onSheet "else_if_statement" [required "condition", bodyParameter]
  | .elseBlock => onSheet "else_statement" [bodyParameter]
  | .forLoop =>
    ⟨"Renderer", "for_loop", [required "variable"], false,
      [required "from_", required "to", bodyParameter]⟩
  | .eachLoop => onSheet "each_loop" [required "variable", required "items", bodyParameter]
  | .whileLoop => onSheet "while_loop" [required "condition", bodyParameter]
  | .text => onSheet "to_sass" []
  | .css =>
    onSheet "to_css"
      [⟨"include", some .none⟩, ⟨"compress", some (.bool false)⟩, ⟨"engine", some .none⟩]
  | .pseudo => ⟨"SelectorContext", "pseudo", [required "name", bodyParameter], false, []⟩
where
  onSheet (name : String) (positional : List Parameter) : Signature :=
    ⟨"Renderer", name, positional, false, []⟩
  variadic (name : String) (positional named : List Parameter) : Signature :=
    ⟨"Renderer", name, positional, true, named⟩

def call? : Method → List Value → List Value → Option Call
  | .declare, [name, value], _ => some (.line (.declare name value))
  | .assign, [name, value], _ => some (.assign name value)
  | .includeMixin, [name], args => some (.line (.includeMixin name args))
  | .importFile, [path], _ => some (.line (.importFile path))
  | .extend, [selector], _ => some (.line (.extend selector))
  | .returnValue, [value], _ => some (.line (.returnValue value))
  | .raw, [chunk], _ => some (.raw chunk)
  | .rule, [selector, body], _ => some (.block (.rule selector) body)
  | .ruleWithContext, [selector, body], _ => some (.block (.ruleWithContext selector) body)
  | .directive, [name, body], args => some (.block (.directive name args) body)
  | .media, [body], queries => some (.block (.media queries) body)
  | .keyframes, [name, body], _ => some (.block (.keyframes name) body)
  | .mixin, [name, body], params => some (.block (.mixin name params) body)
  | .function, [name, body], params => some (.block (.function name params) body)
  | .ifBlock, [condition, body], _ => some (.block (.ifBlock condition) body)
  | .elseIfBlock, [condition, body], _ => some (.block (.elseIfBlock condition) body)
  | .elseBlock, [body], _ => some (.block .elseBlock body)
  | .forLoop, [counter, start, stop, body], _ => some (.block (.forLoop counter start stop) body)
  | .eachLoop, [counter, items, body], _ => some (.block (.eachLoop counter items) body)
  | .whileLoop, [condition, body], _ => some (.block (.whileLoop condition) body)
  | .text, [], _ => some .text
  | .css, [includes, compress, engine], _ => some (.css includes compress engine)
  | .pseudo, [name, body], _ => some (.block (.pseudo name) body)
  | _, _, _ => none

def bind (m : Method) (args : List Value) (named : List (String × Value)) : Except Fault Call := do
  let (values, rest) ← m.signature.bind args named
  match m.call? values rest with
  | some c => return c
  | none => throw (m.signature.complaint "has other parameters")

end Method

inductive Property where
  | indentation
  | tokens
  | isFinished
  | sheet
deriving DecidableEq

def Property.typeName : Property → String
  | .indentation => "int"
  | .tokens => "dict"
  | .isFinished => "bool"
  | .sheet => "Renderer"

/-- What a name stands for: an operation, with its first argument where the name itself gives it, or
a property. -/
inductive Attribute where
  | method (m : Method) (first : List Value)
  | property (p : Property)

namespace Attribute

/-- A call of a property is a call of its value, which never is an operation. -/
def bind (a : Attribute) (args : List Value) (named : List (String × Value)) : Except Fault Call :=
  match a with
  | .method m first => m.bind (first ++ args) named
  | .property p => .error (.notCallable p.typeName)

def shownMethod (m : Method) (first : List Value) (owner : String) : String :=
  let s := m.signature
  let shown := "<bound method " ++ s.owner ++ "." ++ s.name ++ " of " ++ owner ++ ">"
  if first.isEmpty then shown
  else
    let args := first.map fun v ↦ ", " ++ v.shown fun _ ↦ ""
    "functools.partial(" ++ shown ++ String.join args ++ ")"

def isPrivate (name : String) : Bool := name.toList.head? == some '_'

/-- The meaning of a name that is no operation of its own: a word of the vocabulary, or else a
property with hyphens for underscores. -/
def ofWord (name : String) : Attribute :=
  match Vocabulary.lookup name with
  | none => .method .declare [.text (Vocabulary.propertyName name)]
  | some entry =>
    if entry.isDirective then .method .directive [.text entry.name]
    else .method .declare [.text entry.name]

def propertyOfSheet? : String → Option Property
  | "indentation" => some .indentation
  | "variables" => some .tokens
  | "finalized" => some .isFinished
  | _ => none

def ofSheet (name : String) : Except Fault Attribute :=
  match Method.ofName? name, propertyOfSheet? name with
  | some m, _ => .ok (.method m [])
  | none, some p => .ok (.property p)
  | none, none =>
    if isPrivate name then .error (.unknownAttribute "Renderer" name) else .ok (ofWord name)

def ofContext (name : String) : Except Fault Attribute :=
  if name = "pseudo" then .ok (.method .pseudo [])
  else if name = "renderer" then .ok (.property .sheet)
  else if isPrivate name then .error (.unknownAttribute "SelectorContext" name)
  else .ok (.method .pseudo [.text (Vocabulary.propertyName name)])

/-- What a name stands for on a sheet or a selector context. Other values have no operations here. -/
def ofValue (target : Value) (name : String) : Except Fault Attribute :=
  match target with
  | .sheet _ => ofSheet name
  | .context _ _ => ofContext name
  | v => .error (.missingAttribute v.fullTypeName name)

def privateNames : List String := "__getattr__" :: "__module__" :: Value.everyName

def sheetNames : List String :=
  ["__dict__", "__weakref__", "_block", "_body", "_buffer", "_building", "_check_writable",
    "_indentation", "_nested", "_output", "_variables", "_write_line"]

def contextNames : List String := ["__slots__"]

def isOnSheet (name : String) : Bool :=
  !isPrivate name || privateNames.contains name || sheetNames.contains name

def isOnContext (name : String) : Bool :=
  !isPrivate name || privateNames.contains name || contextNames.contains name

end Attribute

end Stylesheet.Builder
