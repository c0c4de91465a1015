import Stylesheet.Proofs.PlainText

namespace Stylesheet

namespace Builder

/-- Calls that write, with the calls that are made by the bodies of blocks. -/
inductive Tree where
  | line (l : Line)
  | assign (name value : Value)
  | raw (chunk : Value)
  | block (h : Heading) (children : List Tree)
deriving Inhabited

namespace Tree

def margin (d : Nat) : String := String.ofList (List.replicate (2 * d) ' ')

mutual

def print (d : Nat) : Tree → String
  | .line l => margin d ++ l.words ++ "\n"
  | .assign name value => margin d ++ ("$" ++ name.plain ++ ": " ++ value.plain ++ ";") ++ "\n"
  | .raw chunk => chunk.plain
  | .block h children =>
    margin d ++ (h.words ++ " \x7b") ++ "\n" ++ printAll (d + 1) children ++
      (margin d ++ "\x7d" ++ "\n")

def printAll (d : Nat) : List Tree → String
  | [] => ""
  | t :: rest => print d t ++ printAll d rest

end

mutual

def chunks (d : Int) : Tree → List Chunk
  | .line l => [.line d l.words]
  | .assign name value => [.assignment d name ("$" ++ name.plain) value.plain]
  | .raw chunk => [.raw chunk.plain]
  | .block h children => .opening d h.words :: (chunksAll (d + 1) children ++ [.closing d])

def chunksAll (d : Int) : List Tree → List Chunk
  | [] => []
  | t :: rest => chunks d t ++ chunksAll d rest

end

mutual

def declare (tokens : Table String String) : Tree → Table String String
  | .assign name _ => tokens.set name.plain ("$" ++ name.plain)
  | .block _ children => declareAll tokens children
  | _ => tokens

def declareAll (tokens : Table String String) : List Tree → Table String String
  | [] => tokens
  | t :: rest => declareAll (declare tokens t) rest

end

theorem indent_eq_margin (d : Nat) : Chunk.indent d = margin d := by
  rw [← String.toList_inj, Chunk.toList_indent, margin, String.toList_ofList, Int.toNat_natCast]

theorem join_text_append (cs ds : List Chunk) :
    String.join ((cs ++ ds).map Chunk.text) =
      String.join (cs.map Chunk.text) ++ String.join (ds.map Chunk.text) := by
  rw [List.map_append, String.join_append]

theorem join_text_singleton (c : Chunk) : String.join ([c].map Chunk.text) = c.text := by
  rw [List.map_singleton, String.join_cons, String.join_nil, String.append_empty]

mutual

theorem text_chunks (d : Nat) : (t : Tree) →
    String.join ((t.chunks d).map Chunk.text) = t.print d
  | .line l => by
    rw [chunks, join_text_singleton, Chunk.text, Chunk.lineAt, indent_eq_margin, print]
  | .assign name value => by
    rw [chunks, join_text_singleton, Chunk.text, Chunk.lineAt, indent_eq_margin, print]
  | .raw chunk => by rw [chunks, join_text_singleton, Chunk.text, print]
  | .block h children => by
    have hc := text_chunksAll (d + 1) children
    rw [Int.natCast_succ] at hc
    rw [chunks, List.map_cons, String.join_cons, join_text_append, join_text_singleton, hc,
      Chunk.text, Chunk.text, Chunk.lineAt, Chunk.lineAt, indent_eq_margin, print]
    simp only [String.append_assoc]

theorem text_chunksAll (d : Nat) : (ts : List Tree) →
    String.join ((chunksAll d ts).map Chunk.text) = printAll d ts
  | [] => by rw [chunksAll, List.map_nil, String.join_nil, printAll]
  | t :: rest => by
    rw [chunksAll, join_text_append, text_chunks d t, text_chunksAll d rest, printAll]

end

theorem chunksAll_append (d : Int) (ts us : List Tree) :
    chunksAll d (ts ++ us) = chunksAll d ts ++ chunksAll d us := by
  induction ts with
  | nil => rfl
  | cons t rest ih => rw [List.cons_append, chunksAll, chunksAll, ih, List.append_assoc]

theorem printAll_append (d : Nat) (ts us : List Tree) :
    printAll d (ts ++ us) = printAll d ts ++ printAll d us := by
  induction ts with
  | nil => rw [List.nil_append, printAll, String.empty_append]
  | cons t rest ih => rw [List.cons_append, printAll, printAll, ih, String.append_assoc]

theorem declareAll_append (tokens : Table String String) (ts us : List Tree) :
    declareAll tokens (ts ++ us) = declareAll (declareAll tokens ts) us := by
  induction ts generalizing tokens with
  | nil => rfl
  | cons t rest ih => rw [List.cons_append, declareAll, declareAll, ih]

end Tree

end Builder

namespace Sheet

open Builder

def bearing (S : Sheet) (ts : List Tree) : Sheet :=
  { S with
    chunks := S.chunks ++ Tree.chunksAll S.indentation ts
    tokens := Tree.declareAll S.tokens ts }

variable (S : Sheet)

theorem bearing_nil : S.bearing [] = S := by
  simp [bearing, Tree.chunksAll, Tree.declareAll]

theorem bearing_append (ts us : List Tree) : S.bearing (ts ++ us) = (S.bearing ts).bearing us := by
  simp [bearing, Tree.chunksAll_append, Tree.declareAll_append]

theorem bearing_block (h : Heading) (children : List Tree) :
    (((S.write (.opening · h.words)).deepen.bearing children).rise.write .closing) =
      S.bearing [.block h children] := by
  simp [bearing, Tree.chunksAll, Tree.chunks, Tree.declareAll, Tree.declare, write, append, deepen,
    rise]

theorem document_bearing (hi : S.indentation = 0) (ts : List Tree) :
    (S.bearing ts).document = S.document ++ Tree.printAll 0 ts := by
  have ht := Tree.text_chunksAll 0 ts
  rw [Int.natCast_zero] at ht
  rw [document, bearing, Tree.join_text_append, hi, ht, document]

end Sheet

end Stylesheet
