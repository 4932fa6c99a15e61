import ContactCard.Scalar

/-!
# Document values

What a loaded document holds: scalars, lists and mappings. A list of ordered
entries has pairs for items, which stand nowhere else. A value has a spelling of its
own, used wherever text is wanted and for error messages.
-/

namespace ContactCard

inductive Value
  | scalar (s : Scalar)
  | list (items : List Value)
  | mapping (entries : List (Scalar × Value))
  | pair (first second : Value)
  deriving Repr, Inhabited

namespace Value

@[match_pattern] abbrev null : Value := .scalar .null

@[match_pattern] abbrev text (s : String) : Value := .scalar (.text s)

@[match_pattern] abbrev bool (b : Bool) : Value := .scalar (.bool b)

@[match_pattern] abbrev int (n : Int) : Value := .scalar (.int n)

/-- A mapping from pairs in order: of equal keys the first keeps its place and
spelling, and the last gives the value. -/
def ofPairs (pairs : List (Scalar × Value)) : Value := .mapping (Keyed.ofPairs pairs)

mutual

/-- The spelling inside a list or mapping. -/
def literal : Value → String
  | .scalar s => s.literal
  | .list items => "[" ++ ", ".intercalate (literalItems items) ++ "]"
  | .mapping entries => "\x7b" ++ ", ".intercalate (literalEntries entries) ++ "\x7d"
  | .pair first second => "(" ++ first.literal ++ ", " ++ second.literal ++ ")"

def literalItems : List Value → List String
  | [] => []
  | item :: rest => item.literal :: literalItems rest

def literalEntries : List (Scalar × Value) → List String
  | [] => []
  | (key, value) :: rest => (key.literal ++ ": " ++ value.literal) :: literalEntries rest

end

/-- The plain spelling: text as it is. -/
def spell : Value → String
  | .scalar s => s.spell
  | other => other.literal

mutual

/-- Whether a value has a spelling: no integer in it may be too long. -/
def isSpelled : Value → Bool
  | .scalar s => s.isSpelled
  | .list items => areSpelled items
  | .mapping entries => areEntriesSpelled entries
  | .pair first second => first.isSpelled && second.isSpelled

def areSpelled : List Value → Bool
  | [] => true
  | item :: rest => item.isSpelled && areSpelled rest

def areEntriesSpelled : List (Scalar × Value) → Bool
  | [] => true
  | (key, value) :: rest => key.isSpelled && value.isSpelled && areEntriesSpelled rest

end

/-- The spelling of a value that has one. -/
def spelled? (v : Value) : Option String := if v.isSpelled then some v.spell else none

/-- The text of a value that stands for a text itself. -/
def text? : Value → Option String
  | .text s => some s
  | _ => none

/-- Besides the scalars that do not hold, empty lists and mappings do not. -/
def holds : Value → Bool
  | .scalar s => s.holds
  | .list items => !items.isEmpty
  | .mapping entries => !entries.isEmpty
  | .pair _ _ => true

/-- What a value gives item by item: a list its items, a mapping its keys, text its
characters and bytes their numbers. Other scalars have no items. -/
def items? : Value → Option (List Value)
  | .list items => some items
  | .mapping entries => some (entries.map fun entry => .scalar entry.1)
  | .pair first second => some [first, second]
  | .text s => some (s.toList.map fun c => .text (String.singleton c))
  | .scalar (.bytes b) => some (b.map fun n => .int n.toNat)
  | .scalar _ => none

/-- The name of a value's kind in messages. -/
def kindName : Value → String
  | .null => "NoneType"
  | .scalar (.bool _) => "bool"
  | .scalar (.int _) => "int"
  | .scalar (.float _) | .scalar .nan => "float"
  | .scalar (.text _) => "str"
  | .scalar (.bytes _) => "bytes"
  | .scalar (.path _) => "PosixPath"
  | .list _ => "list"
  | .mapping _ => "dict"
  | .pair _ _ => "tuple"

end Value

/-- A value that was to be spelled, though an integer in it is too long. -/
structure Unspelled where
  given : Value

def Unspelled.message (_ : Unspelled) : String := Integer.limitMessage none

/-- The spelling of a value, which is refused if it has none. -/
def Value.spelling (v : Value) : Except Unspelled String :=
  if v.isSpelled then .ok v.spell else .error ⟨v⟩

/-- Null for no text. -/
def Value.ofText? (s : Option String) : Value := s.elim .null .text

/-- Keys in the spelling of a list of values. -/
def keysText (keys : List Scalar) : String := Value.literal (.list (keys.map .scalar))

/-- Words in the spelling of a list of values. -/
def wordsText (words : List String) : String := keysText (words.map .text)

end ContactCard
