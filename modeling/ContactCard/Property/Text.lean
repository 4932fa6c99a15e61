import ContactCard.Property.Basic
import ContactCard.Text.Fields

/-!
# Plain-text values

How the value of a property is written in plain text and read back. Single
texts are escaped, URIs and extended values only keep to one line, and lists
are joined with their separator. A property without a value asks to be skipped.
-/

namespace ContactCard

/-- Why a property asks to be skipped. -/
inductive SkipReason
  | noValue (name : String)
  | noUri
  deriving DecidableEq, Repr

def SkipReason.message : SkipReason → String
  | .noValue name => name ++ " has no value"
  | .noUri => "MEMBER has no URI"

namespace TextClass

def encode : TextClass → String → String
  | .member | .raw => Text.escapeBreaks
  | _ => Text.escapeText

def decode : TextClass → String → String
  | .member => Text.strip
  | .raw => id
  | _ => Text.unescape

def skipReason (cls : TextClass) (name : String) : SkipReason :=
  match cls with
  | .member => .noUri
  | _ => .noValue name

end TextClass

namespace Property

def text (p : Property) (mode : Mode) : Noted (Except SkipReason String) :=
  match p.body with
  | .text cls value =>
    let written :=
      match value with
      | some s => .ok (cls.encode s)
      | none => .error (cls.skipReason p.name)
    match cls with
    | .hooked hooks => ⟨written, hooks.onText mode⟩
    | _ => ⟨written, []⟩
  | .list _ separator values => ⟨.ok (Text.joinFields separator values), []⟩

def readText (p : Property) (s : String) : Property :=
  match p.body with
  | .text cls _ => { p with body := .text cls (some (cls.decode s)) }
  | .list cls separator _ =>
    { p with body := .list cls separator (Text.splitFields separator true true s) }

end Property

end ContactCard
