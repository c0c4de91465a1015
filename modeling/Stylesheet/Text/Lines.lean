namespace Stylesheet.Text

/-- Turns every carriage return with the line feed after it, if there is one, into a line feed. -/
def unifyLineEnds : List Char → List Char
  | [] => []
  | '\r' :: '\n' :: rest => '\n' :: unifyLineEnds rest
  | '\r' :: rest => '\n' :: unifyLineEnds rest
  | c :: rest => c :: unifyLineEnds rest

def decodeUtf8? (b : ByteArray) : Option String := String.fromUTF8? b

def ofFile? (b : ByteArray) : Option String :=
  (decodeUtf8? b).map fun s ↦ String.ofList (unifyLineEnds s.toList)

def linesOf : List Char → List (List Char)
  | [] => []
  | '\n' :: rest => ['\n'] :: linesOf rest
  | c :: rest =>
    match linesOf rest with
    | [] => [[c]]
    | line :: more => (c :: line) :: more

/-- Cuts a text behind every line end: a line feed, a carriage return, or both in this order. -/
def anyLinesOf : List Char → List (List Char)
  | [] => []
  | '\n' :: rest => ['\n'] :: anyLinesOf rest
  | '\r' :: '\n' :: rest => ['\r', '\n'] :: anyLinesOf rest
  | '\r' :: rest => ['\r'] :: anyLinesOf rest
  | c :: rest =>
    match anyLinesOf rest with
    | [] => [[c]]
    | line :: more => (c :: line) :: more

def join (separator : String) : List String → String
  | [] => ""
  | [s] => s
  | s :: rest => s ++ separator ++ join separator rest

def replaceChar (old new : Char) (s : String) : String := s.map fun c ↦ if c = old then new else c

end Stylesheet.Text
