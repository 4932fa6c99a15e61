import ContactCard.Card
import ContactCard.Description.Error

/-!
# Cards from descriptions

A card is described by a mapping from known keys to entries. An entry is a bare
value or a mapping with the value, a group and parameters. Properties are added
in the order of the keys; the first thing that is wrong ends the reading.
-/

namespace ContactCard.Description

/-- The parts of an entry. -/
structure Entry where
  value : Value
  group : Value := .null
  parameters : Value := .null

/-- The value under a word, `null` if there is none. -/
def under (entries : Keyed Scalar Value) (word : String) : Value :=
  (entries.lookup (.text word)).getD .null

/-- An entry for `field`, where a mapping gives the value under `valueKey`. -/
def Entry.read (field valueKey : String) : Value → Except DescriptionError Entry
  | .mapping entries =>
    let known := [valueKey, "group", "parameters"]
    match (Keyed.keys entries).filter fun key => !known.any fun word => key == .text word with
    | [] => .ok ⟨under entries valueKey, under entries "group", under entries "parameters"⟩
    | unknown =>
      match Scalar.sorted? unknown with
      | some keys => .error (DescriptionFault.unknownEntryKeys field keys).error
      | none => .error .mixedKeys
  | v => .ok { value := v }

/-- The values that a parameter or list entry stands for: a list its items, any
other value itself. -/
def valuesOf : Value → List Value
  | .list items => items
  | v => [v]

/-- The spelling of a value. -/
def spelling (v : Value) : Except DescriptionError String :=
  match v.spelled? with
  | some s => .ok s
  | none => .error .longInteger

/-- The spelling of a value, none for `null`. -/
def spelling? : Value → Except DescriptionError (Option String)
  | .null => .ok none
  | v => some <$> spelling v

/-- Parameters with some values under a name. Without values the name does not
count. -/
def withParameter (t : Parameters) (name : Scalar) (values : List Value) :
    Except DescriptionError Parameters :=
  if values.isEmpty then .ok t
  else do
    let name ← spelling (.scalar name)
    return t.putAll name (← values.mapM spelling)

/-- A parameter table from a mapping of names to values; a value that does not
hold stands for no parameters. -/
def parameters (field : String) : Value → Except DescriptionError Parameters
  | .mapping entries =>
    entries.foldlM (fun t entry => withParameter t entry.1 (valuesOf entry.2)) .empty
  | v => if v.holds then .error (.invalid (.parametersNotMapping field)) else .ok .empty

/-- A property with the group and parameters of an entry. -/
def finish (field : String) (entry : Entry) (p : Property) : Except DescriptionError Property := do
  let t ← parameters field entry.parameters
  return { p with group := entry.group, parameters := t }

def textProperty (field : String) (make : Option String → Property) (raw : Value) :
    Except DescriptionError Property := do
  let entry ← Entry.read field "value" raw
  match entry.value with
  | .list _ | .mapping _ => throw (.invalid (.notSingle field))
  | .scalar _ | .pair _ _ => finish field entry (make (← spelling? entry.value))

def listProperty (field : String) (make : List String → Property) (raw : Value) :
    Except DescriptionError Property := do
  let entry ← Entry.read field "values" raw
  let values := if entry.value matches .null then [] else valuesOf entry.value
  finish field entry (make (← values.mapM spelling))

def extendedProperty : Value → Except DescriptionError Property
  | .mapping entries =>
    match Keyed.lookup entries (.text "name") with
    | none => .error (.invalid .unnamed)
    | some name => do
      let name ← spelling name
      let value ← spelling? (under entries "value")
      finish "extended" ⟨.null, under entries "group", under entries "parameters"⟩
        (.raw name value)
  | _ => .error (.invalid .unnamed)

/-- The items of the extended entries; a value that does not hold has none. -/
def extendedItems (raw : Value) : Except DescriptionError (List Value) :=
  if raw.holds then
    match raw.items? with
    | some items => .ok items
    | none => .error .noItems
  else .ok []

/-- Adds what one key of a description stands for. -/
def addKey (card : Card) (key : Scalar) (raw : Value) : Except DescriptionError Card :=
  match key with
  | .text "fn" => card.add <$> textProperty "fn" .formattedName raw
  | .text "kind" => card.add <$> textProperty "kind" .kind raw
  | .text "mailer" => card.add <$> textProperty "mailer" .mailer raw
  | .text "member" =>
    (valuesOf raw).foldlM (fun card v => card.add <$> textProperty "member" .member v) card
  | .text "nickname" => card.add <$> listProperty "nickname" .nickname raw
  | .text "categories" => card.add <$> listProperty "categories" .categories raw
  | .text "org" => card.add <$> listProperty "org" .organization raw
  | .text "extended" => do
    let items ← extendedItems raw
    items.foldlM (fun card v => card.addExtended <$> extendedProperty v) card
  | key => .error (DescriptionFault.unknownKey key).error

end ContactCard.Description

namespace ContactCard

open Description in
/-- The card that a value describes. -/
def Card.ofValue : Value → Except DescriptionError Card
  | .mapping entries => entries.foldlM (fun card entry => addKey card entry.1 entry.2) .empty
  | v => .error (.invalid (.notMapping v))

/-- The cards described by the list under `vcards` at the root of a document. -/
def Card.ofDocument (path : String) : Value → Except DescriptionError (List Card)
  | .mapping entries =>
    match Keyed.lookup entries (.text "vcards") with
    | none => .error (.invalid (.noCards path))
    | some (.list items) => items.mapM Card.ofValue
    | some _ => .error (.invalid .cardsNotList)
  | _ => .error (.invalid (.noCards path))

end ContactCard
