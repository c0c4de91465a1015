namespace Stylesheet.Yaml

inductive Directive where
  | version (major : Int)
  /-- A handle stands for the front of the names of tags. -/
  | handle (name uri : String)
  | other
deriving DecidableEq, Inhabited

/-- The name of a tag as it is written: behind a handle, or in full. -/
structure TagName where
  handle : Option String := none
  rest : String
deriving DecidableEq, Inhabited

inductive Token where
  | directive (d : Directive)
  | documentStart
  | documentEnd
  | blockSequence
  | blockMapping
  | blockEnd
  | openSequence
  | closeSequence
  | openMapping
  | closeMapping
  | comma
  /-- The mark of an entry in a block sequence. -/
  | entry
  | key
  | value
  | alias (name : String)
  | anchor (name : String)
  | tag (name : TagName)
  | scalar (isPlain : Bool) (text : String)
deriving DecidableEq, Inhabited

end Stylesheet.Yaml
