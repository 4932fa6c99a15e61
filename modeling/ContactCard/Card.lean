import ContactCard.Property.Basic
import ContactCard.Roster

/-!
# Cards

A card is a roster of properties: the record of one contact. Its formatted name
and its kind are its first standard properties of those classes.
-/

namespace ContactCard

abbrev Card := Roster Property

namespace Card

def properties (card : Card) : List Property := card.members

def formattedName? (card : Card) : Option Property := card.standard.find? Property.isFormattedName

def kind? (card : Card) : Option Property := card.standard.find? Property.isKind

/-- Whether the card stands for a group of contacts. -/
def isGroup (card : Card) : Bool := card.kind?.any fun kind => kind.means "group"

def add (card : Card) (p : Property) : Card := card.attach p

/-- Adds an extended property under its own name. -/
def addExtended (card : Card) (p : Property) : Card := card.attachExtended p.name p

/-- The card as it shows in listings. -/
def listing (card : Card) : String :=
  let name := Value.ofText? (card.formattedName?.bind Property.value?)
  "<VCard fn=" ++ name.literal ++ " properties=" ++ toString card.size ++ ">"

end Card

end ContactCard
