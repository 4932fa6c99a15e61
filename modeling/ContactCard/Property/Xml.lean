import ContactCard.Property.Basic
import ContactCard.Xml.Element

/-!
# Values in XML elements

How the value of a property is put into an element and read from one: every
text in a child of its own, under a name that the class decides.
-/

namespace ContactCard

/-- The name of a value's data type, which is also that of the element around
the value. -/
def TextClass.dataType : TextClass → String
  | .member => "uri"
  | .raw => "unknown"
  | _ => "text"

namespace Property

def holderName (p : Property) : String :=
  match p.body with
  | .text cls _ => cls.dataType
  | .list .. => "text"

def appendTo (p : Property) (e : Element) (version : Version) : Element :=
  match p.body with
  | .text _ value => e.appendTexts version p.holderName value.toList
  | .list _ _ values => e.appendTexts version p.holderName values

def readElement (p : Property) (e : Element) : Property :=
  match p.body with
  | .text cls _ => { p with body := .text cls (e.firstText? p.holderName) }
  | .list cls separator _ => { p with body := .list cls separator (e.texts p.holderName) }

end Property

end ContactCard
