import ContactCard.Number.Integer
import ContactCard.Yaml.Time

/-!
# Unreadable text

Why a text is no document. A document may also hold what no value stands for: a
set, a point in time, or a key that no mapping takes.
-/

namespace ContactCard.Yaml

inductive ReadError
  | illegalCharacter
  | badToken
  | misplaced
  | badReference
  | badTagText
  | noMeaning
  | emptyNumber
  | noInteger (base : Nat) (written : String) (e : Integer.IntegerError)
  | noFloat (written : String)
  | hugeWeight
  | noTruthValue (written : String)
  | noTime (written : String)
  | badTime (e : TimeError)
  | noText
  | foreignPath
  | badKey
  | unsupported (isWhole : Bool)
  deriving DecidableEq, Repr

/-- What is said of a text that is no number, or no time there is. -/
def ReadError.message? : ReadError → Option String
  | .noInteger base written e => some (e.message base written)
  | .noFloat written =>
    some ("could not convert string to float: " ++ Text.quoted written)
  | .badTime e => some e.message
  | _ => none

end ContactCard.Yaml
