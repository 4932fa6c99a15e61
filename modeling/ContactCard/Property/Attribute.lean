import ContactCard.Property.Basic

/-!
# Attributes of properties

The values of a property by the names of its attributes. A property also keeps
what is put under an attribute that its class does not have; nothing but reading
that attribute shows it.
-/

namespace ContactCard

inductive Attribute
  | value
  | values
  | uri
  deriving DecidableEq, Repr

def Attribute.ofName? : String → Option Attribute
  | "value" => some .value
  | "values" => some .values
  | "uri" => some .uri
  | _ => none

namespace Property

/-- Whether the class of a property has an attribute: a text has a value, which is
the URI of a member, and a list has values. -/
def has (p : Property) : Attribute → Bool
  | .value => p.isText
  | .values => p.isList
  | .uri => p.body matches .text .member _

/-- What a property holds under an attribute of its class. -/
def held (p : Property) : Attribute → Value
  | .value | .uri => .ofText? p.value?
  | .values => .list (p.values.map .text)

/-- Puts a value under an attribute of the class. Only a value that the attribute
can hold changes the property. -/
def hold (p : Property) (attr : Attribute) (v : Value) : Property :=
  match attr, v with
  | .value, .text s | .uri, .text s => p.setValue (some s)
  | .value, .null | .uri, .null => p.setValue none
  | .values, .list items => (items.mapM Value.text?).elim p p.setValues
  | _, _ => p

def setSeparator (p : Property) (separator : Char) : Property :=
  match p.body with
  | .text .. => p
  | .list cls _ values => { p with body := .list cls separator values }

end Property

/-- A property with what it keeps under attributes that its class does not have. -/
structure Annotated where
  property : Property
  notes : List (Attribute × Value) := []

namespace Annotated

def get? (a : Annotated) (attr : Attribute) : Option Value :=
  if a.property.has attr then some (a.property.held attr) else a.notes.lookup attr

def set (a : Annotated) (attr : Attribute) (v : Value) : Annotated :=
  if a.property.has attr then { a with property := a.property.hold attr v }
  else { a with notes := (attr, v) :: a.notes }

end Annotated

end ContactCard
