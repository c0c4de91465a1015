import Stylesheet.Json.Reader
import Stylesheet.Program

namespace Stylesheet.Program

mutual

def depth : Json → Nat
  | .array items => depthOfItems items + 1
  | .object members => depthOfMembers members + 1
  | _ => 1

def depthOfItems : List Json → Nat
  | [] => 0
  | j :: rest => max (depth j) (depthOfItems rest)

def depthOfMembers : List (String × Json) → Nat
  | [] => 0
  | (_, j) :: rest => max (depth j) (depthOfMembers rest)

end

def byte? (a b : Char) : Option UInt8 := do
  return UInt8.ofNat ((← Json.hexValue? a) * 16 + (← Json.hexValue? b))

def badHex (position : Nat) : Fault :=
  .wrongValue ("non-hexadecimal number found in fromhex() arg at position " ++
    Number.intText position)

/-- The bytes that pairs of hexadecimal digits write. White space may stand between pairs. -/
def bytesOfHex (position : Nat) : List Char → Except Fault (List UInt8)
  | [] => .ok []
  | [a] => if isSpace a then .ok [] else .error (badHex (position + (digitsAt [a])))
  | a :: b :: rest =>
    if isSpace a then bytesOfHex (position + 1) (b :: rest)
    else
      match byte? a b with
      | some byte => (bytesOfHex (position + 2) rest).map (byte :: ·)
      | none => .error (badHex (position + digitsAt [a, b]))
where
  isSpace (c : Char) : Bool := c == ' ' || (0x09 ≤ c.toNat && c.toNat ≤ 0x0D)
  digitsAt (cs : List Char) : Nat := (cs.takeWhile fun c ↦ (Json.hexValue? c).isSome).length

def bytes? (hex : String) : Except Fault ByteArray :=
  (bytesOfHex 0 hex.toList).map fun bytes ↦ ⟨bytes.toArray⟩

def bytes (hex : String) : ByteArray := ((bytes? hex).toOption).getD ByteArray.empty

def decodeError : Json → Fault
  | .array [.text kind, .text text] => .ofRequest kind (some text)
  | .array (.text kind :: _) => .ofRequest kind none
  | _ => .ofRequest "" none

def errorOf? : Json → Option Fault
  | .null => none
  | j => some (decodeError j)

def decodeReceiver : Option Json → Receiver
  | some (.text "root") => .root
  | some (.text "ctx") => .context
  | some (.text "arg") => .argument
  | some (.text name) => .named name
  | _ => .argument

def textOf (j : Option Json) : String := ((j.bind Json.text?).getD "")

/-- Failing steps are numbered, so that each counts for itself. -/
abbrev Numbered := StateM Nat

def nextLabel : Numbered Nat := fun n ↦ (n, n + 1)

def decodeAtom (read : String → Except Fault Atom) (j : Json) : Expr :=
  match j.text?.map read with
  | some (.ok a) => .atom a
  | some (.error f) => .malformed f
  | none => .malformed (.wrongType "the form holds no text")

def readFloat (s : String) : Except Fault Atom :=
  match Number.float? s with
  | some x => .ok (.float x)
  | none => .error (.wrongValue ("could not convert string to float: " ++ Text.quoted s))

def readInt (s : String) : Except Fault Atom :=
  match Number.integer s with
  | .ok n => .ok (.int n)
  | .error r => .error (.ofRefusal (Text.quoted s) r)

def numeral : Json → Json
  | .int n => .text (Number.intText n)
  | .decimal s => .text s
  | j => j

def atomOfJson : Json → Atom
  | .bool b => .bool b
  | .int n => .int n
  | .decimal numeral => .float ((Number.float? numeral).getD .nan)
  | .text s => .text s
  | _ => .none

mutual

def literal : Json → Expr
  | .array items => .list (literals items)
  | .object members => .dict (literalEntries members)
  | j => .atom (atomOfJson j)

def literals : List Json → List Expr
  | [] => []
  | j :: rest => literal j :: literals rest

def literalEntries : List (String × Json) → List (Expr × Expr)
  | [] => []
  | (name, j) :: rest => (.atom (.text name), literal j) :: literalEntries rest

end

def bodyTag : String := "$fn"

def nameOf (j : Json) : Option String := (j.get? "name").bind Json.text?

mutual

def decodeExpr : (fuel : Nat) → Json → Numbered Expr
  | 0, _ => pure (.atom .none)
  | fuel + 1, j => do
    match j with
    | .array items => return .list (← decodeExprs fuel items)
    | .object [(tag, content)] => decodeTagged fuel tag content
    | .object members =>
      match j.get? bodyTag with
      | some steps => return .body (nameOf j) (← decodeSteps fuel steps.items)
      | none => return .dict (← decodeMembers fuel members)
    | j => return .atom (atomOfJson j)

def decodeTagged : (fuel : Nat) → (tag : String) → Json → Numbered Expr
  | 0, _, _ => pure (.atom .none)
  | fuel + 1, tag, content =>
    match tag with
    | "$float" => return decodeAtom readFloat (numeral content)
    | "$int" => return decodeAtom readInt (numeral content)
    | "$bytes" => return decodeAtom (fun hex ↦ (bytes? hex).map .bytes) content
    | "$path" => return decodeAtom (fun s ↦ .ok (.path (Path.ofString s))) content
    | "$stream" => return .textStream (textOf content)
    | "$bstream" =>
      match bytes? (textOf content) with
      | .ok b => return .byteStream b
      | .error f => return .malformed f
    | "$ref" => return .name (textOf content)
    | "$root" => return .root
    | "$arg" => return .argument
    | "$tuple" => return .tuple (← decodeExprs fuel content.items)
    | "$dict" => return .dict (← decodePairs fuel content.items)
    | "$reader" => return .reader (← decodeExpr fuel content)
    | "$fn" => return .body none (← decodeSteps fuel content.items)
    | "$renderer" =>
      match content with
      | .null => return .sheet none
      | steps => return .sheet (some (← decodeSteps fuel steps.items))
    | tag => return .dict [(.atom (.text tag), ← decodeExpr fuel content)]

def decodeExprs : (fuel : Nat) → List Json → Numbered (List Expr)
  | _, [] => pure []
  | 0, _ => pure []
  | fuel + 1, j :: rest => do
    let first ← decodeExpr fuel j
    return first :: (← decodeExprs (fuel + 1) rest)

def decodePairs : (fuel : Nat) → List Json → Numbered (List (Expr × Expr))
  | _, [] => pure []
  | 0, _ => pure []
  | fuel + 1, j :: rest => do
    match j.items with
    | [key, item] =>
      let key ← decodeExpr fuel key
      let item ← decodeExpr fuel item
      return (key, item) :: (← decodePairs (fuel + 1) rest)
    | _ => decodePairs (fuel + 1) rest

def decodeMembers : (fuel : Nat) → List (String × Json) → Numbered (List (Expr × Expr))
  | _, [] => pure []
  | 0, _ => pure []
  | fuel + 1, (name, j) :: rest => do
    let item ← decodeExpr fuel j
    return (.atom (.text name), item) :: (← decodeMembers (fuel + 1) rest)

def decodeNamed : (fuel : Nat) → List (String × Json) → Numbered (List (String × Expr))
  | _, [] => pure []
  | 0, _ => pure []
  | fuel + 1, (name, j) :: rest => do
    let item ← decodeExpr fuel j
    return (name, item) :: (← decodeNamed (fuel + 1) rest)

def decodeOptional : (fuel : Nat) → Option Json → Numbered (Option Expr)
  | _, none => pure none
  | 0, _ => pure none
  | fuel + 1, some j => do return some (← decodeExpr fuel j)

def decodeStep : (fuel : Nat) → Json → Numbered Step
  | 0, _ => pure (.attempt [])
  | fuel + 1, j => do
    let on := decodeReceiver (j.get? "on")
    match j.get? "do", j.get? "get", j.get? "has", j.get? "fmt", j.get? "let", j.get? "raise",
      j.get? "try", j.get? "css" with
    | some name, _, _, _, _, _, _, _ =>
      let args ← decodeExprs fuel ((j.get? "args").getD .null).items
      let named ← decodeNamed fuel ((j.get? "kw").getD .null).members
      return .call on (textOf name) args named ((j.get? "as").bind Json.text?)
    | _, some name, _, _, _, _, _, _ => return .get on (textOf name)
    | _, _, some name, _, _, _, _, _ => return .has on (textOf name)
    | _, _, _, some form, _, _, _, _ =>
      return if textOf form = "repr" then .shown on else .text on
    | _, _, _, _, some name, _, _, _ =>
      return .bind (textOf name) (← decodeExpr fuel ((j.get? "value").getD .null))
    | _, _, _, _, _, some error, _, _ =>
      let times := (j.get? "times").bind Json.int?
      return .fail (← nextLabel) (decodeError error) (times.map Int.toNat)
    | _, _, _, _, _, _, some steps, _ => return .attempt (← decodeSteps fuel steps.items)
    | _, _, _, _, _, _, _, some css =>
      let includes ← decodeOptional fuel (css.get? "include")
      let compress ← decodeOptional fuel (css.get? "compress")
      let result := ((css.get? "result").map literal).getD (.atom (.text "/* compiled */\n"))
      return .css on includes compress result ((css.get? "error").bind errorOf?)
    | _, _, _, _, _, _, _, _ => return .attempt []

def decodeSteps : (fuel : Nat) → List Json → Numbered (List Step)
  | _, [] => pure []
  | 0, _ => pure []
  | fuel + 1, j :: rest => do
    let first ← decodeStep fuel j
    return first :: (← decodeSteps (fuel + 1) rest)

end

/-- Enough for every level of `j`: an expression, its tag and the list around it spend three units. -/
def budget (j : Json) : Nat := 4 * depth j + 4

def expr (j : Json) : Numbered Expr := decodeExpr (budget j) j

def steps (j : Json) : Numbered (List Step) := decodeSteps (budget j) j.items

end Stylesheet.Program
