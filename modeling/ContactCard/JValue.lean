import ContactCard.Value

/-!
# jCard values

The value part of a jCard property: a data type and groupings, each a list of
strings. In JSON a grouping of one string is that string. Values are read from
scalars of any kind by their spelling, and one that has none is refused.
-/

namespace ContactCard

structure JValue where
  dataType : String
  groupings : List (List String)
  deriving DecidableEq, Repr, Inhabited

namespace JValue

/-- One grouping for every text. -/
def ofTexts (texts : List String) : JValue := ⟨"text", texts.map fun s => [s]⟩

def ofUri (uri : String) : JValue := ⟨"uri", [[uri]]⟩

/-- A value as a string: `null` is empty, all others have their spelling. -/
def string : Value → Except Unspelled String
  | .null => .ok ""
  | v => v.spelling

def grouping : Value → Except Unspelled (List String)
  | .list items => items.mapM string
  | v => return [← string v]

def ofJson (dataType : String) (raw : List Value) : Except Unspelled JValue :=
  return ⟨dataType, ← raw.mapM grouping⟩

def groupingJson : List String → Value
  | [s] => .text s
  | strings => .list (strings.map .text)

def toJson (v : JValue) : List Value := v.groupings.map groupingJson

end JValue

end ContactCard
