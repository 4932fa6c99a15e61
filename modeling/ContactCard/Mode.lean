import ContactCard.Text.Blank
import ContactCard.Text.Case
import ContactCard.Value

/-!
# Compatibility modes

The address book a card is written for. A mode is looked up by its name in any
case, which may be surrounded by blanks.
-/

namespace ContactCard

inductive Mode
  | rfc
  | outlook
  | macAddressBook
  | gmail
  | iPhone
  | evolution
  | kdeAddressBook
  deriving DecidableEq, Repr, Inhabited

namespace Mode

def all : List Mode :=
  [.rfc, .outlook, .macAddressBook, .gmail, .iPhone, .evolution, .kdeAddressBook]

def name : Mode → String
  | .rfc => "rfc"
  | .outlook => "outlook"
  | .macAddressBook => "mac_address_book"
  | .gmail => "gmail"
  | .iPhone => "i_phone"
  | .evolution => "evolution"
  | .kdeAddressBook => "kde_address_book"

/-- The identifier of a mode among the enumerated ones. -/
def identifier (mode : Mode) : String := Text.upper mode.name

def ofName? (s : String) : Option Mode := all.find? fun mode => mode.name == s

end Mode

/-- A name that stands for no mode. -/
structure UnknownMode where
  given : Value

def UnknownMode.message (e : UnknownMode) : String :=
  match e.given.spelled? with
  | some s =>
    "Unknown compatibility mode '" ++ s ++ "'. Known modes: "
      ++ wordsText (Mode.all.map Mode.name)
  | none => Integer.limitMessage none

def Mode.ofValue (v : Value) : Except UnknownMode Mode :=
  match v.spelled?.bind fun s => ofName? (Text.lower (Text.strip s)) with
  | some mode => .ok mode
  | none => .error ⟨v⟩

end ContactCard
