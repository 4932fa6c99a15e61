import ContactCard.Text.Blank
import ContactCard.Value

/-!
# Format versions

The three revisions of the format that can be produced. A version is looked up
by its number, which may be surrounded by blanks and may come as a number.
-/

namespace ContactCard

inductive Version
  | v21
  | v30
  | v40
  deriving DecidableEq, Repr, Inhabited

namespace Version

/-- All versions in ascending order. -/
def all : List Version := [.v21, .v30, .v40]

def number : Version → String
  | .v21 => "2.1"
  | .v30 => "3.0"
  | .v40 => "4.0"

/-- The identifier of a version among the enumerated ones. -/
def identifier : Version → String
  | .v21 => "V2_1"
  | .v30 => "V3_0"
  | .v40 => "V4_0"

/-- The XML namespace that qualifies every element of a version. -/
def xmlNamespace (version : Version) : String := "urn:ietf:params:xml:ns:vcard-" ++ version.number

def index : Version → Nat
  | .v21 => 0
  | .v30 => 1
  | .v40 => 2

def ofNumber? (s : String) : Option Version := all.find? fun version => version.number == s

/-- Versions between brackets, in ascending order. -/
def showAll (versions : List Version) : String :=
  let ordered := versions.mergeSort fun a b => a.index ≤ b.index
  "[" ++ ", ".intercalate (ordered.map number) ++ "]"

end Version

/-- A name that stands for no version. -/
structure UnknownVersion where
  given : Value

def UnknownVersion.message (e : UnknownVersion) : String :=
  match e.given.spelled? with
  | some s =>
    "Unknown vCard version '" ++ s ++ "'. Known versions: "
      ++ wordsText (Version.all.map Version.number)
  | none => Integer.limitMessage none

def Version.ofValue (v : Value) : Except UnknownVersion Version :=
  match v.spelled?.bind fun s => ofNumber? (Text.strip s) with
  | some version => .ok version
  | none => .error ⟨v⟩

end ContactCard
