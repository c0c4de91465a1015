import Stylesheet.Text.Flaw
import Stylesheet.Text.Lines

namespace Stylesheet.Text

structure Feed where
  bytes : List UInt8
  /-- The front of a character that the last block has cut. -/
  cut : List UInt8 := []
  /-- Whether a carriage return waits for what follows it. -/
  holdsReturn : Bool := false
  /-- Characters that have not been given yet. -/
  ready : List Char := []
  /-- How many bytes the last block had, and how many characters it has given. -/
  density : Nat × Nat := (1, 1)
deriving Inhabited

def decodeFront (bytes : List UInt8) : Except Flaw (List Char × List UInt8) :=
  match Flaw.find? bytes with
  | none => .ok (chars bytes, [])
  | some flaw =>
    if flaw.kind = .unfinished then
      .ok (chars (bytes.take flaw.position), bytes.drop flaw.position)
    else .error flaw
where
  chars (bytes : List UInt8) : List Char := ((decodeUtf8? ⟨bytes.toArray⟩).getD "").toList

namespace Feed

def leastBlock : Nat := 8192

/-- As many bytes as the missing characters took if they were like those of the last block. -/
def blockSize (f : Feed) (missing : Nat) : Nat :=
  let (bytes, chars) := f.density
  max leastBlock (if 0 < chars ∧ chars < bytes then missing * bytes / chars else missing)

/-- Takes a block. The place of a flaw is counted from its start, or from that of a character cut
before it. -/
def step (f : Feed) (missing : Nat) : Except Flaw Feed := do
  let size := f.blockSize missing
  let (chars, cut) ← decodeFront (f.cut ++ f.bytes.take size)
  let chars := if f.holdsReturn ∧ !chars.isEmpty then '\r' :: chars else chars
  let holdsReturn := if chars.isEmpty then f.holdsReturn else chars.getLast? == some '\r'
  let chars := unifyLineEnds (if holdsReturn then chars.dropLast else chars)
  return { bytes := f.bytes.drop size, cut, holdsReturn, ready := f.ready ++ chars,
           density := ((f.bytes.take size).length, chars.length) }

def finish (f : Feed) : Except Flaw Feed :=
  match Flaw.find? f.cut with
  | some flaw => .error flaw
  | none => .ok { f with holdsReturn := false,
                         ready := if f.holdsReturn then f.ready ++ ['\n'] else f.ready }

def read (wanted : Nat) : (fuel : Nat) → Feed → Except Flaw (List Char × Feed)
  | 0, f => .ok ([], f)
  | fuel + 1, f => do
    if wanted ≤ f.ready.length then return give f wanted
    else if f.bytes.isEmpty then return give (← f.finish) wanted
    else read wanted fuel (← f.step (wanted - f.ready.length))
where
  give (f : Feed) (wanted : Nat) : List Char × Feed :=
    (f.ready.take wanted, { f with ready := f.ready.drop wanted })

end Feed

/-- The pieces of a text in order, and the flaw of its bytes behind them, if they have one. -/
structure Pieces where
  pieces : List (List Char)
  flaw : Option Flaw
deriving Inhabited

namespace Pieces

def length : Nat := 4096

def ofFeed : (fuel : Nat) → Feed → Pieces
  | 0, _ => ⟨[], none⟩
  | fuel + 1, f =>
    match f.read length (f.bytes.length + 2) with
    | .error flaw => ⟨[], some flaw⟩
    | .ok ([], _) => ⟨[], none⟩
    | .ok (piece, f) =>
      let rest := ofFeed fuel f
      ⟨piece :: rest.pieces, rest.flaw⟩

def size (p : Pieces) : Nat := p.pieces.foldl (fun n piece ↦ n + piece.length) 0

def ofBytes (bytes : ByteArray) : Pieces := ofFeed (bytes.size + 1) { bytes := bytes.toList }

end Pieces

end Stylesheet.Text
