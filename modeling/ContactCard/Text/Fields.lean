import ContactCard.Text.Blank
import ContactCard.Text.Escape
import ContactCard.Text.Pieces

/-!
# Delimited fields

A list of values as one text: each value escaped, a separator between them.
Cutting scans from left to right; a backslash shields the character after it,
so an escaped separator does not cut.
-/

namespace ContactCard.Text

namespace Fields

/-- The fields between the separators that no backslash shields. Text without
any has one field, itself. -/
def cut (separator : Char) : List Char → List (List Char)
  | [] => [[]]
  | [c] => if c ≠ '\\' ∧ c = separator then [[], []] else [[c]]
  | c :: d :: rest =>
    if c = '\\' then extend [c, d] (cut separator rest)
    else if c = separator then [] :: cut separator (d :: rest)
    else extend [c] (cut separator (d :: rest))

/-- The fields with the separator between them. -/
def glue (separator : Char) (fields : List (List Char)) : List Char :=
  [separator].intercalate fields

/-- The values of delimited text, each unescaped and then stripped on request. -/
def split (separator : Char) (unescaped trimmed : Bool) (s : List Char) : List (List Char) :=
  (cut separator s).map fun field =>
    let field := if unescaped then Escape.decode field else field
    if trimmed then stripChars field else field

/-- Delimited text from values. -/
def join (separator : Char) (values : List (List Char)) : List Char :=
  glue separator (values.map (Escape.encode separator))

end Fields

def splitFields (separator : Char) (unescaped trimmed : Bool) (s : String) : List String :=
  (Fields.split separator unescaped trimmed s.toList).map String.ofList

def joinFields (separator : Char) (values : List String) : String :=
  .ofList (Fields.join separator (values.map String.toList))

end ContactCard.Text
