import ContactCard.Parameters.Attribute
import ContactCard.Proofs.Ledger

/-!
# The history of a parameter table

A table is made from names with their values and then changed, one operation after another.
Whatever the operations are, the table holds the values that were put and whose name was not
removed after that.  Names count by their upper case, and a name that was removed and put again
stands where it was put again.
-/

namespace ContactCard

/-- A value that has a spelling, which is how a table takes it. -/
structure Spelled where
  value : Value
  isSpelled : value.isSpelled = true

def Spelled.text (v : Spelled) : String := v.value.spell

/-- What a parameter is set to by a value: nothing by `null`, else its spelling. -/
def Spelled.content? (v : Spelled) : Option String := if v.value matches .null then none else v.text

namespace Parameters

/-- What can be done to a table, with names in any case.  Putting `null` puts its spelling, but
replacing by it, or setting it, only removes the name. -/
inductive Operation
  | put (name : String) (v : Spelled)
  | replace (name : String) (v : Spelled)
  | removeAll (name : String)
  | addType (v : Spelled)
  | setText (p : TextParameter) (v : Spelled)
  | setPref (v : Spelled)
  | setSortAs (values : List Spelled)

def perform (t : Parameters) : Operation → Parameters
  | .put name v => t.put name v.text
  | .replace name v => (t.replace name v.content?).2
  | .removeAll name => (t.pop name).2
  | .addType v => t.addType v.text
  | .setText p v => t.setText p v.content?
  | .setPref v => (t.replace "PREF" v.content?).2
  | .setSortAs values => t.setSortAs (values.map Spelled.text)

/-- A new table after some operations. -/
def run (initial : List (String × List Spelled)) (operations : List Operation) : Parameters :=
  operations.foldl perform (.ofEntries (initial.map fun entry =>
    (entry.1, entry.2.map Spelled.text)))

/-! ## Puts and removals -/

abbrev Change := Keyed.Change String String

/-- Some values put under a name. -/
def puts (name : String) (values : List Spelled) : List Change :=
  values.map fun v => .add (Text.upper name) v.text

/-- A name with its values removed. -/
def removal (name : String) : Change := .drop (Text.upper name)

/-- Writing a value removes the name and puts the value, if it is one. -/
def writing (name : String) (v : Spelled) : List Change :=
  removal name :: puts name (if v.value matches .null then [] else [v])

/-- An operation by what it puts and removes. -/
def Operation.changes : Operation → List Change
  | .put name v => puts name [v]
  | .replace name v => writing name v
  | .removeAll name => [removal name]
  | .addType v => puts "TYPE" [v]
  | .setText p v => writing p.name v
  | .setPref v => writing "PREF" v
  | .setSortAs values => removal "SORT-AS" :: puts "SORT-AS" values

/-- Everything that is put and removed, from the making of the table on. -/
def history (initial : List (String × List Spelled)) (operations : List Operation) :
    List Change :=
  initial.flatMap (fun entry => puts entry.1 entry.2) ++ operations.flatMap Operation.changes

theorem entries_putAll (t : Parameters) (name : String) (values : List Spelled) :
    (t.putAll name (values.map Spelled.text)).entries =
      (puts name values).foldl Keyed.change t.entries := by
  induction values generalizing t with
  | nil => rfl
  | cons v rest ih => exact ih (t.put name v.text)

theorem entries_replace (t : Parameters) (name : String) (v : Spelled) :
    (t.replace name v.content?).2.entries = (writing name v).foldl Keyed.change t.entries := by
  obtain ⟨value, _⟩ := v
  cases value with
  | scalar s => cases s <;> rfl
  | list items => rfl
  | mapping entries => rfl
  | pair first second => rfl

theorem entries_ofEntries (initial : List (String × List Spelled)) :
    (ofEntries (initial.map fun entry => (entry.1, entry.2.map Spelled.text))).entries =
      (initial.flatMap fun entry => puts entry.1 entry.2).foldl Keyed.change [] := by
  have hfrom : ∀ t : Parameters,
      ((initial.map fun entry => (entry.1, entry.2.map Spelled.text)).foldl
        (fun t entry => t.putAll entry.1 entry.2) t).entries =
        (initial.flatMap fun entry => puts entry.1 entry.2).foldl Keyed.change t.entries := by
    induction initial with
    | nil => exact fun _ => rfl
    | cons entry rest ih =>
        intro t
        rw [List.map_cons, List.foldl_cons, ih, List.flatMap_cons, List.foldl_append,
          ← entries_putAll]
  exact hfrom empty

/-- An operation changes the entries by what it puts and removes. -/
theorem entries_perform (t : Parameters) (operation : Operation) :
    (t.perform operation).entries = operation.changes.foldl Keyed.change t.entries := by
  cases operation with
  | put name v => rfl
  | replace name v => exact t.entries_replace name v
  | removeAll name => rfl
  | addType v => rfl
  | setText p v => exact t.entries_replace p.name v
  | setPref v => exact t.entries_replace "PREF" v
  | setSortAs values => exact (t.remove "SORT-AS").entries_putAll "SORT-AS" values

theorem entries_foldl_perform (t : Parameters) (operations : List Operation) :
    (operations.foldl perform t).entries =
      (operations.flatMap Operation.changes).foldl Keyed.change t.entries := by
  induction operations generalizing t with
  | nil => rfl
  | cons operation rest ih =>
      rw [List.foldl_cons, ih, entries_perform, List.flatMap_cons, List.foldl_append]

/-- The entries of a table are the values that stand, name by name. -/
theorem entries_run (initial : List (String × List Spelled)) (operations : List Operation) :
    (run initial operations).entries =
      Keyed.gathered (Keyed.standing (history initial operations)) := by
  rw [run, entries_foldl_perform, entries_ofEntries, ← List.foldl_append, ← history,
    Keyed.foldl_change]

/-! ## What a table shows -/

/-- A table that shows some additions, and nothing else, in all its answers. -/
structure Shows (t : Parameters) (additions : List (String × String)) : Prop where
  values : ∀ name, t.values name = Keyed.valuesUnder (Text.upper name) additions
  names : t.names = Keyed.firstKeys additions
  names_nodup : t.names.Nodup
  mem_names_iff : ∀ name, name ∈ t.names ↔ ∃ value, (name, value) ∈ additions
  entries : t.entries = t.names.map fun name => (name, t.values name)
  values_ne_nil : ∀ name ∈ t.names, t.values name ≠ []
  has_iff : ∀ name, t.has name = true ↔ t.values name ≠ []
  size : t.size = t.names.length
  isEmpty_iff : t.isEmpty = true ↔ t.names = []
  first? : ∀ name, t.first? name = (t.values name).head?
  replaced : ∀ name value, (t.replace name value).1 = t.values name
  popped : ∀ name, (t.pop name).1 = t.values name

theorem shows_of_entries {t : Parameters} {additions : List (String × String)}
    (hentries : t.entries = Keyed.gathered additions) : t.Shows additions := by
  have hnames : t.names = Keyed.firstKeys additions := by
    rw [Parameters.names, hentries, Keyed.keys_gathered]
  have hvalues : ∀ name, t.values name = Keyed.valuesUnder (Text.upper name) additions := by
    intro name
    rw [Parameters.values, hentries, Keyed.lookup_gathered]
  -- The names of a table are in upper case, which leaves them as they are.
  have hstored : ∀ name ∈ t.names, t.values name = Keyed.valuesUnder name additions := by
    intro name hname
    rw [hvalues, t.names_upper name hname]
  exact {
    values := hvalues
    names := hnames
    names_nodup := t.names_nodup
    mem_names_iff := fun name => by rw [hnames, Keyed.mem_firstKeys]
    entries := by
      rw [hentries, Keyed.gathered, ← hnames]
      exact List.map_congr_left fun name hname => by rw [hstored name hname]
    values_ne_nil := by
      intro name hname
      rw [hstored name hname, ne_eq, Keyed.valuesUnder_eq_nil_iff, ← hnames, not_not]
      exact hname
    has_iff := by
      intro name
      rw [has, Keyed.has_iff_mem_keys, hvalues, ne_eq, Keyed.valuesUnder_eq_nil_iff, not_not,
        hentries, Keyed.keys_gathered]
    size := (List.length_map _).symm
    isEmpty_iff := by
      rw [isEmpty, List.isEmpty_iff, Parameters.names, Keyed.keys, List.map_eq_nil_iff]
    first? := fun _ => rfl
    replaced := fun _ _ => rfl
    popped := fun _ => rfl }

/-- A table shows the values that were put under its names and not removed since. -/
theorem shows_standing (initial : List (String × List Spelled)) (operations : List Operation) :
    (run initial operations).Shows (Keyed.standing (history initial operations)) :=
  shows_of_entries (entries_run initial operations)

/-- A name that is removed and put again stands behind the others. -/
example : (run [("type", [⟨.text "home", rfl⟩]), ("Pref", [⟨.text "1", rfl⟩])]
    [.removeAll "Type", .addType ⟨.text "work", rfl⟩, .put "pref" ⟨.text "2", rfl⟩]).entries =
    [("PREF", ["1", "2"]), ("TYPE", ["work"])] := by
  decide

end Parameters

end ContactCard
