import ContactCard.Mode
import ContactCard.Parameters
import ContactCard.Version

/-!
# Properties

A property of a card: a name, an optional group, parameters, and a body that is
either one text or a list of texts. The class of a body decides which versions
support the property and how its value is written and read.
-/

namespace ContactCard

/-- A result together with the warnings raised on the way to it. -/
structure Noted (α : Type) where
  result : α
  warnings : List String := []
  deriving Repr

/-- What a class of text properties may do beyond the plain one: warn while its
text or jCard value is written, and adjust the parameters that are written.
The adjustment sees the version, the mode and the number of properties of the
card. -/
structure Hooks where
  className : String
  onText : Mode → List String := fun _ => []
  onJson : List String := []
  adjust : Version → Mode → Nat → Parameters → Noted Parameters := fun _ _ _ t => ⟨t, []⟩

inductive TextClass
  | plain
  | formattedName
  | mailer
  | kind
  | member
  | raw
  | hooked (hooks : Hooks)

inductive ListClass
  | plain
  | nickname
  | categories
  | organization
  deriving DecidableEq, Repr

inductive Body
  | text (cls : TextClass) (value : Option String)
  | list (cls : ListClass) (separator : Char) (values : List String)

/-- The group is whatever the description gave for it. -/
structure Property where
  name : String
  group : Value := .null
  parameters : Parameters := .empty
  body : Body

def TextClass.name : TextClass → String
  | .plain => "TextType"
  | .formattedName => "FormattedNameType"
  | .mailer => "MailerType"
  | .kind => "KindType"
  | .member => "MemberType"
  | .raw => "RawType"
  | .hooked hooks => hooks.className

def ListClass.name : ListClass → String
  | .plain => "TextListType"
  | .nickname => "NicknameType"
  | .categories => "CategoriesType"
  | .organization => "OrganizationType"

namespace Property

def ofText (name : String) (value : Option String) : Property where
  name := name
  body := .text .plain value

def formattedName (value : Option String) : Property where
  name := "FN"
  body := .text .formattedName value

def mailer (value : Option String) : Property where
  name := "MAILER"
  body := .text .mailer value

def kind (value : Option String) : Property where
  name := "KIND"
  body := .text .kind value

def member (uri : Option String) : Property where
  name := "MEMBER"
  body := .text .member uri

/-- An extended property, under the upper case of its name. -/
def raw (name : String) (value : Option String) : Property where
  name := Text.upper name
  body := .text .raw value

def hooked (hooks : Hooks) (name : String) (value : Option String) : Property where
  name := name
  body := .text (.hooked hooks) value

def ofList (name : String) (separator : Char) (values : List String) : Property where
  name := name
  body := .list .plain separator values

def nickname (values : List String) : Property where
  name := "NICKNAME"
  body := .list .nickname ',' values

def categories (values : List String) : Property where
  name := "CATEGORIES"
  body := .list .categories ',' values

def organization (values : List String) : Property where
  name := "ORG"
  body := .list .organization ';' values

def className (p : Property) : String :=
  match p.body with
  | .text cls _ => cls.name
  | .list cls _ _ => cls.name

/-- Whether the property holds a single text, whatever its class. -/
def isText (p : Property) : Bool := p.body matches .text ..

def isList (p : Property) : Bool := p.body matches .list ..

def isFormattedName (p : Property) : Bool := p.body matches .text .formattedName _

def isKind (p : Property) : Bool := p.body matches .text .kind _

def supportedVersions (p : Property) : List Version :=
  match p.body with
  | .text .mailer _ => [.v21, .v30]
  | .text .kind _ | .text .member _ => [.v40]
  | _ => Version.all

/-- The single text of a property; a list has none. -/
def value? (p : Property) : Option String :=
  match p.body with
  | .text _ value => value
  | .list .. => none

def setValue (p : Property) (value : Option String) : Property :=
  match p.body with
  | .text cls _ => { p with body := .text cls value }
  | .list .. => p

/-- The texts of a list property; a single text is no list. -/
def values (p : Property) : List String :=
  match p.body with
  | .text .. => []
  | .list _ _ values => values

def setValues (p : Property) (values : List String) : Property :=
  match p.body with
  | .text .. => p
  | .list cls separator _ => { p with body := .list cls separator values }

def addValue (p : Property) (value : String) : Property := p.setValues (p.values ++ [value])

/-- Removes the first occurrence of a value. -/
def removeValue (p : Property) (value : String) : Property := p.setValues (p.values.erase value)

/-- Whether the value is a word, blanks around it and case aside. -/
def means (p : Property) (word : String) : Bool :=
  p.value?.any fun value => Text.lower (Text.strip value) == word

/-- The property as it shows in listings, with its group if that holds. -/
def listing (p : Property) : Except Unspelled String := do
  let group ← if p.group.holds then (· ++ ".") <$> p.group.spelling else pure ""
  return "<" ++ p.className ++ " " ++ group ++ p.name ++ ">"

/-- The parameters to write, with what the class adjusts in them. -/
def writtenParameters (p : Property) (version : Version) (mode : Mode) (cardSize : Nat) :
    Noted Parameters :=
  match p.body with
  | .text (.hooked hooks) _ => hooks.adjust version mode cardSize p.parameters
  | _ => ⟨p.parameters, []⟩

/-- New parameters, if some are given. -/
def withParameters (p : Property) (parameters : Option Parameters) : Property :=
  { p with parameters := parameters.getD p.parameters }

end Property

namespace Hooks

/-- Warns whenever a text or a jCard value is written. -/
def noisy : Hooks where
  className := "NoisyType"
  onText mode := ["noisy text " ++ mode.name]
  onJson := ["noisy json"]

/-- Marks the parameters: adds the version, replaces the value type, drops the
preference, and warns with the mode and the size of the card. -/
def marking : Hooks where
  className := "HookedType"
  adjust version mode cardSize t :=
    let marked := ((t.put "X-HOOK" version.number).replace "VALUE" (some "hooked")).2
    ⟨marked.remove "PREF", ["hooked " ++ mode.identifier ++ " " ++ toString cardSize]⟩

end Hooks

end ContactCard
