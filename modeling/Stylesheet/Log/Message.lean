import Stylesheet.Builder.Text

namespace Stylesheet.Log

variable (activate : Body → Value → Build Unit)

def integerFor (v : Value) : Except Fault Int :=
  match v, v.float? with
  | .atom (.int n), _ => if Number.isWritable n then .ok n else .error .unwritable
  | .atom (.bool b), _ => .ok (if b then 1 else 0)
  | _, some x =>
    match x, x.truncate? with
    | _, some n => .ok n
    | .nan, none => .error (.wrongValue "cannot convert float NaN to integer")
    | _, none => .error (.overflow "cannot convert float infinity to integer")
  | v, none =>
    .error (.wrongType ("%d format: a real number is required, not " ++ v.fullTypeName))

/-- Replaces each mark by the next value. `surplus` tells whether values may be left over. -/
def fill (surplus : Bool) : List Char → List Value → Build (List Char)
  | [], [] => pure []
  | [], _ :: _ =>
    if surplus then pure []
    else throw (.wrongType "not all arguments converted during string formatting")
  | '%' :: '%' :: rest, values => do return '%' :: (← fill surplus rest values)
  | '%' :: 's' :: rest, value :: values => do
    let shown ← Builder.text activate value
    return shown.toList ++ (← fill surplus rest values)
  | '%' :: 'd' :: rest, value :: values => do
    let n ← Build.ofExcept (integerFor value)
    return (Number.intText n).toList ++ (← fill surplus rest values)
  | '%' :: 's' :: _, [] => throw (.wrongType "not enough arguments for format string")
  | '%' :: 'd' :: _, [] => throw (.wrongType "not enough arguments for format string")
  | ['%'], _ => throw (.wrongValue "incomplete format")
  | '%' :: _ :: _, _ => throw (.wrongValue "unsupported format character")
  | c :: rest, values => do return c :: (← fill surplus rest values)

/-- The message. Marks are replaced only if there are values; one filled dictionary may go unused. -/
def Record.message (r : Record) : Build String := do
  let template ← Builder.text activate r.template
  match r.args with
  | [] => return template
  | args =>
    let surplus := match args with
      | [.dict (_ :: _)] => true
      | _ => false
    return String.ofList (← fill activate surplus template.toList args)

end Stylesheet.Log
