import Stylesheet.Fault
import Stylesheet.Text.Pieces

namespace Stylesheet.Files.Tree

def readText (t : Tree) (path : String) : Except Fault String :=
  match t.read path with
  | .error trouble => .error (.files trouble path)
  | .ok bytes =>
    match Text.ofFile? bytes with
    | some s => .ok s
    | none => .error (.ofBytes bytes)

def readPieces (t : Tree) (path : String) : Except Fault Text.Pieces :=
  (t.read path).map Text.Pieces.ofBytes |>.mapError (.files · path)

def holds (t : Tree) (p : Path) : Except Fault Bool :=
  match t.seek p.toString with
  | .ok node? => .ok node?.isSome
  | .error trouble => .error (.files trouble p.toString)

def writeText (t : Tree) (path text : String) : Except Fault Tree :=
  (t.write path text.toUTF8).mapError (.files · path)

end Stylesheet.Files.Tree
