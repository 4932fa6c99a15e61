import ContactCard.Keyed
import ContactCard.Text.Case

/-!
# Rosters

An ordered collection with two parts. Standard members stand in the order in
which they were attached. Extended members stand under the upper case of a name
and always come after the standard ones, name by name.
-/

namespace ContactCard

structure Roster (α : Type) where
  standard : List α := []
  extended : Keyed String (List α) := []

namespace Roster

variable {α β : Type}

def empty : Roster α := {}

/-- Attaches a standard member; the same one may be attached again. -/
def attach (r : Roster α) (x : α) : Roster α := { r with standard := r.standard ++ [x] }

/-- Undoes the earliest attachment of a standard member. -/
def detach [BEq α] (r : Roster α) (x : α) : Roster α := { r with standard := r.standard.erase x }

def isAttached [BEq α] (r : Roster α) (x : α) : Bool := r.standard.contains x

/-- Makes `x` the only standard member of a kind, as the last one, or leaves
none of that kind. -/
def assign (r : Roster α) (ofKind : α → Bool) (x : Option α) : Roster α :=
  { r with standard := (r.standard.filter fun y => !ofKind y) ++ x.toList }

def attachExtended (r : Roster α) (name : String) (x : α) : Roster α :=
  { r with extended := r.extended.alter (Text.upper name) fun old => old.getD [] ++ [x] }

/-- The extended members under a name in any case. -/
def extendedNamed (r : Roster α) (name : String) : List α :=
  (r.extended.lookup (Text.upper name)).getD []

def allExtended (r : Roster α) : List α := r.extended.flatMap (·.2)

def detachExtended (r : Roster α) (name : String) : Roster α :=
  { r with extended := r.extended.without (Text.upper name) }

def members (r : Roster α) : List α := r.standard ++ r.allExtended

def size (r : Roster α) : Nat := r.members.length

def map (f : α → β) (r : Roster α) : Roster β where
  standard := r.standard.map f
  extended := r.extended.map fun entry => (entry.1, entry.2.map f)

end Roster

end ContactCard
