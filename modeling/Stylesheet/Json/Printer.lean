import Stylesheet.Json.Basic
import Stylesheet.Number.Numeral
import Stylesheet.Number.Printed
import Stylesheet.Text.Quoted

namespace Stylesheet.Json

def units (c : Char) : List Nat :=
  let n := c.toNat
  if n < 0x10000 then [n] else [0xD800 + (n - 0x10000) / 0x400, 0xDC00 + (n - 0x10000) % 0x400]

def escape (c : Char) : List Char :=
  if c = '"' then ['\\', '"']
  else if c = '\\' then ['\\', '\\']
  else if c = '\n' then ['\\', 'n']
  else if c = '\r' then ['\\', 'r']
  else if c = '\t' then ['\\', 't']
  else if c = '\x0c' then ['\\', 'f']
  else if c = '\x08' then ['\\', 'b']
  else if 0x20 ≤ c.toNat ∧ c.toNat < 0x7F then [c]
  else (units c).flatMap fun u ↦ '\\' :: 'u' :: Text.hexText 4 u

def textLiteral (s : String) : List Char := '"' :: s.toList.flatMap escape ++ ['"']

def atomText? : Json → Option (List Char)
  | .null => some "null".toList
  | .bool b => some (if b then "true".toList else "false".toList)
  | .int n => if Number.isWritable n then some (Number.intText n).toList else none
  | .decimal numeral => some numeral.toList
  | .text s => some (textLiteral s)
  | _ => none

mutual

def line : Json → List Char
  | .array items => '[' :: itemsLine items ++ [']']
  | .object members => '\x7b' :: membersLine members ++ ['\x7d']
  | j => (atomText? j).getD []

def itemsLine : List Json → List Char
  | [] => []
  | [j] => line j
  | j :: rest => line j ++ ',' :: ' ' :: itemsLine rest

def membersLine : List (String × Json) → List Char
  | [] => []
  | [(name, j)] => textLiteral name ++ ':' :: ' ' :: line j
  | (name, j) :: rest => textLiteral name ++ ':' :: ' ' :: line j ++ ',' :: ' ' :: membersLine rest

end

def newLine (depth : Nat) : List Char := '\n' :: List.replicate (2 * depth) ' '

mutual

def lines (depth : Nat) : Json → List Char
  | .array [] => ['[', ']']
  | .array items => '[' :: itemLines (depth + 1) items ++ newLine depth ++ [']']
  | .object [] => ['\x7b', '\x7d']
  | .object members => '\x7b' :: memberLines (depth + 1) members ++ newLine depth ++ ['\x7d']
  | j => (atomText? j).getD []

def itemLines (depth : Nat) : List Json → List Char
  | [] => []
  | [j] => newLine depth ++ lines depth j
  | j :: rest => newLine depth ++ lines depth j ++ ',' :: itemLines depth rest

def memberLines (depth : Nat) : List (String × Json) → List Char
  | [] => []
  | [(name, j)] => newLine depth ++ textLiteral name ++ ':' :: ' ' :: lines depth j
  | (name, j) :: rest =>
    newLine depth ++ textLiteral name ++ ':' :: ' ' :: lines depth j ++ ',' :: memberLines depth rest

end

def toLine (j : Json) : String := String.ofList (line j)

def toLines (j : Json) : String := String.ofList (lines 0 j)

end Stylesheet.Json
