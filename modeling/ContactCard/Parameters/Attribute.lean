import ContactCard.Number.Integer
import ContactCard.Parameters

/-!
# Common parameters

The parameters that have a meaning of their own, read and written by that
meaning: one text, a preference number, or a list of texts. Writing replaces
what was there. A document value of any kind is written by its spelling, and
where it has none the write stops midway.
-/

namespace ContactCard

/-- Parameters that hold one text. -/
inductive TextParameter
  | value
  | language
  | altId
  | mediaType
  deriving DecidableEq, Repr

def TextParameter.name : TextParameter → String
  | .value => "VALUE"
  | .language => "LANGUAGE"
  | .altId => "ALTID"
  | .mediaType => "MEDIATYPE"

/-- A preference that is no integer. -/
structure BadPreference where
  given : String

def BadPreference.message (e : BadPreference) : String :=
  "PREF parameter is not an integer: '" ++ e.given ++ "'"

namespace Parameters

def text? (t : Parameters) (p : TextParameter) : Option String := t.first? p.name

def setText (t : Parameters) (p : TextParameter) (value : Option String) : Parameters :=
  (t.replace p.name value).2

def pref? (t : Parameters) : Except BadPreference (Option Int) :=
  match t.first? "PREF" with
  | none => .ok none
  | some s =>
    match Integer.read? s with
    | some n => .ok (some n)
    | none => .error ⟨s⟩

def setPref (t : Parameters) (pref : Option Int) : Parameters :=
  (t.replace "PREF" (pref.map Integer.write)).2

def types (t : Parameters) : List String := t.values "TYPE"

def addType (t : Parameters) (type : String) : Parameters := t.put "TYPE" type

def sortAs (t : Parameters) : List String := t.values "SORT-AS"

def setSortAs (t : Parameters) (values : List String) : Parameters :=
  (t.remove "SORT-AS").putAll "SORT-AS" values

/-! ## Document values -/

/-- The ways to write a document value to a table. -/
inductive Write
  | put (name : String)
  | replace (name : String)
  | addType
  | text (p : TextParameter)
  | pref
  | sortAs

def Write.name : Write → String
  | .put name | .replace name => name
  | .addType => "TYPE"
  | .text p => p.name
  | .pref => "PREF"
  | .sortAs => "SORT-AS"

/-- Why a value is not written: an integer in it is too long to be spelled, or it
was to be written item by item and has none. -/
inductive WriteFault
  | unspelled (e : Unspelled)
  | noItems

/-- A write that stopped, with the entries that it left. A name may be among them
without values. -/
structure WriteError where
  fault : WriteFault
  left : Keyed String (List String)

/-- Puts a value under a name by its spelling. The name is entered before the value
is spelled, so it stays where the value has no spelling. -/
def putValue (t : Parameters) (name : String) (v : Value) : Except WriteError Parameters :=
  match v.spelling with
  | .ok s => .ok (t.put name s)
  | .error e => .error ⟨.unspelled e, t.entries.alter (Text.upper name) fun old => old.getD []⟩

def putValues (t : Parameters) (name : String) (values : List Value) :
    Except WriteError Parameters :=
  values.foldlM (fun t v => t.putValue name v) t

/-- A table from names in any case with their values. -/
def ofValues (entries : List (String × List Value)) : Except WriteError Parameters :=
  entries.foldlM (fun t entry => t.putValues entry.1 entry.2) empty

/-- Leaves one value under a name, and none for `null`. -/
def setValue (t : Parameters) (name : String) : Value → Except WriteError Parameters
  | .null => .ok (t.remove name)
  | v => (t.remove name).putValue name v

/-- Leaves one preference. It is spelled before anything changes. -/
def setPrefValue (t : Parameters) : Value → Except WriteError Parameters
  | .null => .ok (t.remove "PREF")
  | v =>
    match v.spelling with
    | .ok s => .ok ((t.remove "PREF").put "PREF" s)
    | .error e => .error ⟨.unspelled e, t.entries⟩

/-- Leaves the items of a value as sort keys. -/
def setSortValues (t : Parameters) (v : Value) : Except WriteError Parameters :=
  match v.items? with
  | some items => (t.remove "SORT-AS").putValues "SORT-AS" items
  | none => .error ⟨.noItems, (t.remove "SORT-AS").entries⟩

def attempt (t : Parameters) : Write → Value → Except WriteError Parameters
  | .put name, v => t.putValue name v
  | .replace name, v => t.setValue name v
  | .addType, v => t.putValue "TYPE" v
  | .text p, v => t.setValue p.name v
  | .pref, v => t.setPrefValue v
  | .sortAs, v => t.setSortValues v

end Parameters

end ContactCard
