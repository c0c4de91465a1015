namespace Stylesheet.Text

def isParameter (c : Char) : Bool := c.isDigit || c == ';' || c == '?'

def afterControl? : List Char → Option (List Char)
  | '\x1b' :: '[' :: rest =>
    match rest.dropWhile isParameter with
    | c :: after => if c.isAlpha then some after else none
    | [] => none
  | _ => none

/-- A text without control sequences. Sequences that removal would form stay. -/
def withoutControls (s : String) : String := String.ofList (go s.length s.toList)
where
  go : (fuel : Nat) → List Char → List Char
    | 0, cs => cs
    | _, [] => []
    | fuel + 1, c :: rest =>
      match afterControl? (c :: rest) with
      | some after => go fuel after
      | none => c :: go fuel rest

end Stylesheet.Text
