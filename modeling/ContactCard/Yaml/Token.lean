/-!
# Tokens

What a document is made of when it is read from left to right. The beginning
and end of block collections, which only indentation shows, have tokens too.
-/

namespace ContactCard.Yaml

/-- A line in front of a document that says how to read it. The stem that a handle
stands for is missing where its bytes are no text. -/
inductive Directive
  | version (major minor : Nat)
  | handle (handle : String) (stem : Option String)
  deriving DecidableEq, Repr

/-- The suffix of a tag is missing where its bytes are no text. -/
inductive Token
  | directive (d : Directive)
  | documentStart
  | documentEnd
  | streamEnd
  | blockListStart
  | blockMappingStart
  | blockEnd
  | flowListStart
  | flowListEnd
  | flowMappingStart
  | flowMappingEnd
  | blockItem
  | flowItem
  | key
  | value
  | reference (name : String)
  | anchor (name : String)
  | tag (handle suffix : Option String)
  | scalar (isPlain : Bool) (text : String)
  deriving DecidableEq, Repr

end ContactCard.Yaml
