import Stylesheet.Number.Printed
import Stylesheet.Text.Quoted

namespace Stylesheet.Text

/-- How many bytes of a character are still to come, and between which the next one must lie. -/
structure Expected where
  owed : Nat
  least : UInt8 := 0x80
  greatest : UInt8 := 0xBF

/-- What follows the first byte of a character. The second byte is bounded so that no character has
a shorter form, is half of a pair, or lies beyond the last code point. -/
def Expected.after? (b : UInt8) : Option Expected :=
  if b < 0x80 then some { owed := 0 }
  else if b < 0xC2 then none
  else if b < 0xE0 then some { owed := 1 }
  else if b = 0xE0 then some { owed := 2, least := 0xA0 }
  else if b = 0xED then some { owed := 2, greatest := 0x9F }
  else if b < 0xF0 then some { owed := 2 }
  else if b = 0xF0 then some { owed := 3, least := 0x90 }
  else if b < 0xF4 then some { owed := 3 }
  else if b = 0xF4 then some { owed := 3, greatest := 0x8F }
  else none

inductive FlawKind where
  | noStart
  | noContinuation
  | unfinished
deriving DecidableEq, Inhabited

def FlawKind.text : FlawKind → String
  | .noStart => "invalid start byte"
  | .noContinuation => "invalid continuation byte"
  | .unfinished => "unexpected end of data"

/-- The bytes that are no character: where they start, the first of them, and how many there are. -/
structure Flaw where
  kind : FlawKind := .unfinished
  position : Nat := 0
  first : UInt8 := 0
  count : Nat := 1
deriving Inhabited

namespace Flaw

def behind (position : Nat) (first : UInt8) (count : Nat) : Expected → List UInt8 → Option Flaw
  | ⟨0, _, _⟩, [] => none
  | _, [] => some ⟨.unfinished, position, first, count⟩
  | ⟨0, _, _⟩, b :: rest =>
    match Expected.after? b with
    | some e => behind (position + count) b 1 e rest
    | none => some ⟨.noStart, position + count, b, 1⟩
  | ⟨owed + 1, least, greatest⟩, b :: rest =>
    if least ≤ b ∧ b ≤ greatest then behind position first (count + 1) { owed } rest
    else some ⟨.noContinuation, position, first, count⟩

def find? (bytes : List UInt8) : Option Flaw := behind 0 0 0 { owed := 0 } bytes

def place (f : Flaw) : String :=
  if f.count = 1 then
    "byte 0x" ++ String.ofList (hexText 2 f.first.toNat) ++ " in position " ++
      Number.intText f.position
  else
    "bytes in position " ++ Number.intText f.position ++ "-" ++
      Number.intText (f.position + f.count - 1 : Nat)

def text (f : Flaw) : String := "'utf-8' codec can't decode " ++ f.place ++ ": " ++ f.kind.text

end Flaw

end Stylesheet.Text
