import ContactCard.Record
import ContactCard.Xml.Document
import ContactCard.Xml.Legal

/-!
# xCard

A card as an XML element. A property is an element named by its lower-cased
name, with its parameters and then its value as text. The properties of a named
group stand in a group element, which is left out when nothing is in it.
Characters that XML cannot hold are deleted with a warning.
-/

namespace ContactCard.XCard

/-- The element around each value of a parameter, by its lower-cased name. -/
def holderName (parameter : String) : String :=
  match parameter with
  | "altid" | "calscale" | "label" | "mediatype" | "pid" | "sort-as" | "type" => "text"
  | "geo" | "tz" => "uri"
  | "language" => "language-tag"
  | "pref" => "integer"
  | _ => "unknown"

def parameterElement (version : Version) (entry : String × List String) : Element :=
  let name := Text.lower entry.1
  .ofChildren version name (entry.2.map (Element.ofText version (holderName name)))

/-- The parameters other than the value type; none leave no element. -/
def parametersElement? (version : Version) (t : Parameters) : Option Element :=
  match t.entries.filter fun entry => entry.1 ≠ "VALUE" with
  | [] => none
  | entries => some (.ofChildren version "parameters" (entries.map (parameterElement version)))

/-- The element of a property before cleaning. -/
def propertyElement (version : Version) (name : String) (t : Parameters) (value : String) :
    Element :=
  .ofChildren version (Text.lower name)
    ((parametersElement? version t).toList ++ [.ofText version "text" value])

def illegalWarning (name : String) : String :=
  name ++ " type contains characters that are not allowed in XML.  They were removed."

def writeProperty (target : Target) (card : Card) (p : Property) : Outcome Element :=
  match card.reject? target.version p with
  | some reason => .rejected reason
  | none =>
    let t := p.writtenParameters target.version target.mode card.size
    let value := p.text target.mode
    let notes := t.warnings ++ value.warnings
    match value.result with
    | .error reason => .skipped p.name reason notes
    | .ok s =>
      let e := propertyElement target.version p.name t.result s
      let cleaning := if Xml.isCleanTree e then [] else [illegalWarning p.name]
      .written (Xml.cleanTree e) (notes ++ cleaning)

def groupElement (version : Version) (label : Scalar) (children : List Element) : Element :=
  { Element.ofChildren version "group" children with attributes := [("name", label)] }

/-- The elements of a bucket as they stand in the card. -/
def sectionElements (version : Version) (label : Scalar) (written : List Element) :
    List Element :=
  if written.isEmpty then []
  else if label = .null then written
  else [groupElement version label written]

def assemble (version : Version) (sections : Sections Element) : Element :=
  .ofChildren version "vcard"
    (sections.flatMap fun entry => sectionElements version entry.1 (outputs entry.2))

def record (target : Target) (card : Card) : Except BadGroup (Record Element) := do
  let sections ← card.sections target fun _ => writeProperty target card
  return card.gather target (assemble target.version) sections

def format : Format Element := ⟨"xCard", record⟩

def root (d : Document Element) : Element := .ofChildren d.target.version "vcards" d.records

/-- The document as text, unless some group is no text. -/
def write (indent : Bool) (d : Document Element) : Except BadGroup String :=
  (Xml.write d.target.version.xmlNamespace indent (root d)).mapError fun label =>
    { given := .scalar label }

end ContactCard.XCard
