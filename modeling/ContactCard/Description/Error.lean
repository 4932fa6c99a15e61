import ContactCard.Message
import ContactCard.Value

/-!
# Errors in descriptions

What can be wrong with the description of a card or of a list of cards. Besides
the faults that are reported with a message of their own there are three ways to
fail: going through a value that has no items, putting keys in order that have
none, and spelling an integer that is too long.
-/

namespace ContactCard

inductive DescriptionFault
  | notMapping (given : Value)
  | unknownKey (key : Scalar)
  | unknownEntryKeys (field : String) (keys : List Scalar)
  | parametersNotMapping (field : String)
  | notSingle (field : String)
  | unnamed
  | noCards (path : String)
  | cardsNotList
  deriving Repr

inductive DescriptionError
  | invalid (fault : DescriptionFault)
  | noItems
  | mixedKeys
  | longInteger
  deriving Repr

namespace DescriptionFault

/-- The keys a description may have, in alphabetical order. -/
def knownKeys : List String :=
  ["categories", "extended", "fn", "kind", "mailer", "member", "nickname", "org"]

/-- The key that the fault lies at, `null` if at none. -/
def field : DescriptionFault → Scalar
  | .notMapping _ | .noCards _ => .null
  | .unknownKey key => key
  | .unknownEntryKeys field _ | .parametersNotMapping field | .notSingle field => .text field
  | .unnamed => .text "extended"
  | .cardsNotList => .text "vcards"

def summary : DescriptionFault → String
  | .notMapping given => "vCard entry must be a mapping, got " ++ given.kindName
  | .unknownKey _ => "Unknown vCard key. Known keys: " ++ wordsText knownKeys
  | .unknownEntryKeys _ keys => "Unknown entry keys " ++ keysText keys
  | .parametersNotMapping _ => "'parameters' must be a mapping"
  | .notSingle _ => "Expected a single value"
  | .unnamed => "Extended entries need a 'name'"
  | .noCards path => "YAML must contain 'vcards' key at root level: " ++ path
  | .cardsNotList => "'vcards' must be a list"

/-- A summary with a note on the field, if the field says anything. -/
def report (summary : String) (field : Value) : String :=
  withNotes summary [("Field", if field.holds then some field.spell else none)]

def message (fault : DescriptionFault) : String := report fault.summary (.scalar fault.field)

/-- Whether all keys that the message shows have a spelling. -/
def isSpelled : DescriptionFault → Bool
  | .unknownKey key => key.isSpelled
  | .unknownEntryKeys _ keys => keys.all Scalar.isSpelled
  | _ => true

/-- The error that a fault ends in. -/
def error (fault : DescriptionFault) : DescriptionError :=
  if fault.isSpelled then .invalid fault else .longInteger

end DescriptionFault

end ContactCard
