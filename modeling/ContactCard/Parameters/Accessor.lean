import ContactCard.Parameters.Attribute

/-!
# Accessors of the common parameters

The parameters that have a meaning of their own, each with the kind of content that is read and
written under it, and the programs on a table that do so.
-/

namespace ContactCard.Parameters

/-- The parameters that are written by their meaning. -/
inductive Accessor
  | text (p : TextParameter)
  | pref
  | sortAs

namespace Accessor

def name : Accessor → String
  | .text p => p.name
  | .pref => "PREF"
  | .sortAs => "SORT-AS"

/-- What is read and written: a text or an integer, if any, or a list of texts. -/
abbrev Content : Accessor → Type
  | .text _ => Option String
  | .pref => Option Int
  | .sortAs => List String

/-- The document value that a content is written as. -/
def value : (a : Accessor) → a.Content → Value
  | .text _, x => .ofText? x
  | .pref, x => x.elim .null .int
  | .sortAs, values => .list (values.map .text)

/-- Whether a content can be written: an integer may have no more than `Integer.maxDigits`
digits. -/
def takes (a : Accessor) (x : a.Content) : Bool := (a.value x).isSpelled

end Accessor

def read (t : Parameters) : (a : Accessor) → Except BadPreference a.Content
  | .text p => .ok (t.text? p)
  | .pref => t.pref?
  | .sortAs => .ok t.sortAs

def write (t : Parameters) : (a : Accessor) → a.Content → Parameters
  | .text p, x => t.setText p x
  | .pref, x => t.setPref x
  | .sortAs, values => t.setSortAs values

/-- A program on a table.  Where it fails it says why, and the table is still there. -/
abbrev Program (α : Type) := EStateM String Parameters α

namespace Accessor

def get (a : Accessor) : Program a.Content := do
  match (← MonadState.get).read a with
  | .ok x => return x
  | .error e => throw e.message

def set (a : Accessor) (x : a.Content) : Program Unit :=
  if a.takes x then modify (·.write a x) else throw (Integer.limitMessage none)

end Accessor

end ContactCard.Parameters
