import ContactCard.Card
import ContactCard.Property.Text

/-!
# Admission of properties

Which properties of a card may be written for a version. A property must be
supported by the version, and a member may only stand on the card of a group.
The first rule that a property breaks is the one reported.
-/

namespace ContactCard

inductive Rejection
  | unsupported (name : String) (version : Version) (supported : List Version)
  | notGroup
  deriving DecidableEq, Repr

def Rejection.message : Rejection → String
  | .unsupported name version supported =>
    "The " ++ name ++ " type is not supported by vCard version " ++ version.number
      ++ ".  The supported versions are " ++ Version.showAll supported
      ++ ".  This type will not be added to the vCard."
  | .notGroup =>
    "The value of KIND must be set to \"group\" in order to add MEMBERs to the vCard."

namespace Card

/-- Why a property may not be written on this card, if so. -/
def reject? (card : Card) (version : Version) (p : Property) : Option Rejection :=
  if version ∉ p.supportedVersions then some (.unsupported p.name version p.supportedVersions)
  else if Text.upper p.name = "MEMBER" ∧ ¬card.isGroup then some .notGroup
  else none

/-- The advice for a card without a formatted name. -/
def nameWarnings (card : Card) (version : Version) : List String :=
  if card.formattedName?.isSome then []
  else ["vCard version " ++ version.number ++ " requires that a formatted name be defined."]

end Card

/-- The warning for a property that asks to be skipped. -/
def skipWarning (name : String) : String :=
  name ++ " type has requested that it not be marshalled."

end ContactCard
