import ContactCard.Card

/-!
# A desk with one card

Properties lie on a desk under numbers, and one card refers to them by number.
A property that is changed on the desk is changed on the card, and removing one
from the card removes that very property, not one like it.
-/

namespace ContactCard

structure Desk where
  items : List Property := []
  roster : Roster Nat := .empty

namespace Desk

def item (d : Desk) (i : Nat) : Property := d.items[i]?.getD (Property.ofText "" none)

/-- The card with the properties themselves. -/
def card (d : Desk) : Card := d.roster.map d.item

def attach (d : Desk) (i : Nat) : Desk := { d with roster := d.roster.attach i }

def detach (d : Desk) (i : Nat) : Desk := { d with roster := d.roster.detach i }

def isAttached (d : Desk) (i : Nat) : Bool := d.roster.isAttached i

def assignFormattedName (d : Desk) (i : Option Nat) : Desk :=
  { d with roster := d.roster.assign (fun j => (d.item j).isFormattedName) i }

def assignKind (d : Desk) (i : Option Nat) : Desk :=
  { d with roster := d.roster.assign (fun j => (d.item j).isKind) i }

/-- Puts a new extended property on the desk and on the card. -/
def addExtended (d : Desk) (p : Property) : Desk where
  items := d.items ++ [p]
  roster := d.roster.attachExtended p.name d.items.length

def detachExtended (d : Desk) (name : String) : Desk :=
  { d with roster := d.roster.detachExtended name }

def update (d : Desk) (i : Nat) (f : Property → Property) : Desk :=
  { d with items := d.items.modify i f }

end Desk

end ContactCard
