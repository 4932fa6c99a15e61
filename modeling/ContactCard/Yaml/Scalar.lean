import ContactCard.Scalar
import ContactCard.Yaml.Base64
import ContactCard.Yaml.Number
import ContactCard.Yaml.Time

/-!
# Scalars in text

What a text stands for whose tag says of what kind it is.
-/

namespace ContactCard.Yaml

def truthValue (s : String) : Except ReadError Scalar :=
  let word := Text.lower s
  if trueWords.contains word then .ok (.bool true)
  else if falseWords.contains word then .ok (.bool false)
  else .error (.noTruthValue s)

/-- The bytes that a text stands for. -/
def bytesOf (s : String) : Except ReadError Scalar :=
  match Base64.decode? s.toList with
  | some b => .ok (.bytes b)
  | none => .error .noMeaning

/-- Refuses a text that is no point in time. -/
def checkTime (s : String) : Except ReadError Unit :=
  match Time.read? (dropLastBreak s.toList) with
  | none => .error (.noTime s)
  | some t =>
    match t.error? with
    | some e => .error (.badTime e)
    | none => .ok ()

/-- The scalar that a text of a kind stands for. -/
def Tag.scalar (tag : Tag) (s : String) : Except ReadError Scalar :=
  match tag with
  | null => .ok .null
  | bool => truthValue s
  | int => Scalar.int <$> integer s
  | float => Yaml.float s
  | text => .ok (.text s)
  | bytes => bytesOf s
  | time | list | pairs | set | mapping | merge | default | path _ | other _ => .error .noMeaning

end ContactCard.Yaml
