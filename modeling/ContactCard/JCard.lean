import ContactCard.Json
import ContactCard.Property.Json
import ContactCard.Record

/-!
# jCard

A card as a JSON array of entries, the first of which names the version. An
entry holds the lower-cased name, the parameters and group as an object, the
data type, and at least one value.
-/

namespace ContactCard

namespace JCard

structure Entry where
  name : String
  parameters : Keyed String Value := []
  dataType : String := "text"
  values : List Value

namespace Entry

def ofVersion (version : Version) : Entry where
  name := "version"
  values := [.text version.number]

def toValue (e : Entry) : Value :=
  let parameters := e.parameters.map fun entry => (Scalar.text entry.1, entry.2)
  .list (.text e.name :: .mapping parameters :: .text e.dataType :: e.values)

end Entry

/-- A single parameter value stands for itself, several as a list. -/
def parameterValue : List String → Value
  | [s] => .text s
  | values => .list (values.map .text)

/-- The object of an entry: the group, then the parameters under their
lower-cased names. The value type is written as the data type instead. -/
def parameters (label : Scalar) (t : Parameters) : Keyed String Value :=
  let group : Keyed String Value := if label = .null then [] else [("group", .scalar label)]
  (t.entries.filter fun entry => entry.1 ≠ "VALUE").foldl
    (fun object entry => object.insert (Text.lower entry.1) (parameterValue entry.2)) group

/-- Where there is no value the entry holds an empty one. -/
def trailing (v : JValue) : List Value := if v.toJson.isEmpty then [.text ""] else v.toJson

/-- Whether a property is skipped is up to its plain text, but the warnings are
those of its jCard value. -/
def writeProperty (target : Target) (card : Card) (label : Scalar) (p : Property) :
    Outcome Entry :=
  match card.reject? target.version p with
  | some reason => .rejected reason
  | none =>
    let t := p.writtenParameters target.version target.mode card.size
    match (p.text target.mode).result with
    | .error reason => .skipped p.name reason t.warnings
    | .ok _ =>
      let v := p.jValue
      .written {
        name := Text.lower p.name
        parameters := parameters label t.result
        dataType := v.result.dataType
        values := trailing v.result } (t.warnings ++ v.warnings)

def assemble (version : Version) (sections : Sections Entry) : List Entry :=
  .ofVersion version :: outputs sections.outcomes

def record (target : Target) (card : Card) : Except BadGroup (Record (List Entry)) := do
  let sections ← card.sections target (writeProperty target card)
  return card.gather target (assemble target.version) sections

def format : Format (List Entry) := ⟨"jCard", record⟩

/-- The JSON form of a record. -/
def recordValue (entries : List Entry) : Value :=
  .list [.text "vcard", .list (entries.map Entry.toValue)]

/-- The JSON form of a document: the array of its records. -/
def documentValue (d : Document (List Entry)) : Value := .list (d.records.map recordValue)

def write (indent : Option Int) (d : Document (List Entry)) : String :=
  Json.write indent (documentValue d)

/-- The text of a document with an indentation that can be any number. -/
def writeChecked (indent : Option Int) (d : Document (List Entry)) :
    Except Json.WriteError String :=
  Json.writeChecked indent (documentValue d)

end JCard

end ContactCard
