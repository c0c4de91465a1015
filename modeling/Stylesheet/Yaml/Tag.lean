import Stylesheet.Table

namespace Stylesheet.Yaml

inductive Tag where
  | null
  | bool
  | int
  | float
  | binary
  | timestamp
  | orderedMap
  | pairs
  | set
  | text
  | sequence
  | mapping
  /-- Stands in for the entries of other mappings. -/
  | merge
  /-- Marks the entry of a mapping that can stand for all of it. -/
  | value
  | unknown
deriving DecidableEq, Inhabited

namespace Tag

def names : Table String Tag :=
  [("null", .null), ("bool", .bool), ("int", .int), ("float", .float), ("binary", .binary),
    ("timestamp", .timestamp), ("omap", .orderedMap), ("pairs", .pairs), ("set", .set),
    ("str", .text), ("seq", .sequence), ("map", .mapping), ("merge", .merge), ("value", .value)]

def front : String := "tag:yaml.org,2002:"

def ofUri (uri : String) : Tag :=
  ((names.find? fun (name, _) ↦ front ++ name == uri).map (·.2)).getD .unknown

end Tag

end Stylesheet.Yaml
