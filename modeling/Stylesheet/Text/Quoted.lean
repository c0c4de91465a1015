import Stylesheet.Text.Printable

namespace Stylesheet.Text

def hexDigit (n : Nat) : Char := "0123456789abcdef".toList.getD n '0'

def hexText : (width n : Nat) → List Char
  | 0, _ => []
  | width + 1, n => hexText width (n / 16) ++ [hexDigit (n % 16)]

def quoteMark : Char := '\x27'

def quoteFor (cs : List Char) : Char :=
  if cs.contains quoteMark && !cs.contains '"' then '"' else quoteMark

def escapeWith (printable : Char → Bool) (quote c : Char) : List Char :=
  if c = quote ∨ c = '\\' then ['\\', c]
  else if c = '\n' then ['\\', 'n']
  else if c = '\r' then ['\\', 'r']
  else if c = '\t' then ['\\', 't']
  else if printable c then [c]
  else if c.toNat < 0x100 then '\\' :: 'x' :: hexText 2 c.toNat
  else if c.toNat < 0x10000 then '\\' :: 'u' :: hexText 4 c.toNat
  else '\\' :: 'U' :: hexText 8 c.toNat

def quotedWith (printable : Char → Bool) (cs : List Char) : List Char :=
  let quote := quoteFor cs
  quote :: cs.flatMap (escapeWith printable quote) ++ [quote]

def quoted (s : String) : String := String.ofList (quotedWith isPrintable s.toList)

/-- Bytes are shown as the characters of their values; only those of ASCII are printable. -/
def quotedBytes (b : ByteArray) : String :=
  let cs := b.toList.map fun x ↦ Char.ofNat x.toNat
  String.ofList ('b' :: quotedWith (fun c ↦ 0x20 ≤ c.toNat && c.toNat < 0x7F) cs)

end Stylesheet.Text
