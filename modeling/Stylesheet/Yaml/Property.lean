import Stylesheet.Number.Numeral
import Stylesheet.Yaml.Scalar
import Stylesheet.Yaml.Token

namespace Stylesheet.Yaml

def isWordChar (c : Char) : Bool := c.isDigit || isLetter c || c == '-' || c == '_'

def anchorEnds : List Char := "?:,]\x7d%@\x60".toList

def anchorName (c : Cursor) : Except Fault (String × Cursor) :=
  let (name, next) := c.step.run isWordChar
  if name.isEmpty || !(isGap next.rest || (next.rest.head?.map anchorEnds.contains).getD false)
  then .error next.misfit
  else .ok (String.ofList name, next)

def isUriChar (c : Char) : Bool :=
  c.isDigit || isLetter c || "-;/?:@&=+$,_.!~*\x27()[]".toList.contains c

def codedBytes : List Char → Except Fault (List UInt8)
  | '%' :: a :: b :: rest =>
    if isDigitOf 16 a && isDigitOf 16 b then
      (codedBytes rest).map (UInt8.ofNat (inBase 16 [a, b]) :: ·)
    else .error .malformedYaml
  | '%' :: _ => .error .malformedYaml
  | _ => .ok []

def codeLength : Nat := 3

def uriChars : (fuel : Nat) → Cursor → Except Fault (List Char × Cursor)
  | 0, c => .ok ([], c)
  | fuel + 1, c =>
    match c.rest with
    | [] => .ok ([], c)
    | ch :: _ =>
      if ch == '%' then do
        let bytes ← codedBytes c.rest
        match Text.decodeUtf8? ⟨bytes.toArray⟩ with
        | none => throw .malformedYaml
        | some s =>
          let (more, last) ← uriChars fuel (c.forward (codeLength * bytes.length))
          return (s.toList ++ more, last)
      else if isUriChar ch then (uriChars fuel c.step).map fun (more, last) ↦ (ch :: more, last)
      else .ok ([], c)

def uri (c : Cursor) : Except Fault (String × Cursor) := do
  let (chars, next) ← uriChars c.rest.length c
  if chars.isEmpty then throw next.misfit
  return (String.ofList chars, next)

def tagHandle (c : Cursor) : Except Fault (String × Cursor) :=
  match c.rest with
  | '!' :: ' ' :: _ => .ok ("!", c.step)
  | '!' :: _ =>
    let (word, next) := c.step.run isWordChar
    if next.rest.head? == some '!' then .ok ("!" ++ String.ofList word ++ "!", next.step)
    else .error next.misfit
  | _ => .error c.misfit

def tagName (c : Cursor) : Except Fault (TagName × Cursor) := do
  let (name, next) ← body c.step
  if isWordEnd next.rest then return (name, next) else throw next.misfit
where
  body (behind : Cursor) : Except Fault (TagName × Cursor) := do
    if behind.rest.head? == some '<' then
      let (rest, next) ← uri behind.step
      if next.rest.head? == some '>' then return (⟨none, rest⟩, next.step) else throw next.misfit
    else if isGap behind.rest then return (⟨none, "!"⟩, behind)
    else
      let word := behind.rest.takeWhile fun ch ↦ ch != ' ' && !isBreak ch
      let (handle, next) ← if word.contains '!' then tagHandle c else pure ("!", behind)
      let (rest, next) ← uri next
      return (⟨some handle, rest⟩, next)

def versionNumber (c : Cursor) : Except Fault (Int × Cursor) :=
  let (ds, next) := c.run Char.isDigit
  match Number.integer (String.ofList ds) with
  | .ok n => .ok (n, next)
  | .error .malformed => .error next.misfit
  | .error (.tooLong digits) => .error (.tooManyDigits digits)

def version (c : Cursor) : Except Fault (Directive × Cursor) := do
  let (major, next) ← versionNumber (c.skip (· == ' '))
  if next.rest.head? != some '.' then throw next.misfit
  let (_, next) ← versionNumber next.step
  if isWordEnd next.rest then return (.version major, next) else throw next.misfit

def handleDirective (c : Cursor) : Except Fault (Directive × Cursor) := do
  let (name, next) ← tagHandle (c.skip (· == ' '))
  if next.rest.head? != some ' ' then throw next.misfit
  let (front, next) ← uri (next.skip (· == ' '))
  if isWordEnd next.rest then return (.handle name front, next) else throw next.misfit

def directive (c : Cursor) : Except Fault (Directive × Cursor) := do
  let (name, next) := c.step.run isWordChar
  if name.isEmpty || !isWordEnd next.rest then throw next.misfit
  let (d, next) ←
    if name == "YAML".toList then version next
    else if name == "TAG".toList then handleDirective next
    else pure (.other, next.skip fun ch ↦ !isBreak ch)
  return (d, ← next.pastIdleLine)

end Stylesheet.Yaml
