import ContactCard.Keyed
import ContactCard.Text.Case.Stable
import ContactCard.Value

/-!
# Parameter tables

The parameters of a property: names in upper case, each with a list of values.
Names are looked up in any case. A name is in the table exactly while it has
values, names keep the order in which they came in, and so do the values under
a name.
-/

namespace ContactCard

structure Parameters where
  entries : Keyed String (List String) := []
  names_nodup : entries.keys.Nodup := by simp [Keyed.keys]
  names_upper : ∀ name ∈ entries.keys, Text.upper name = name := by simp [Keyed.keys]
  values_ne_nil : ∀ entry ∈ entries, entry.2 ≠ [] := by simp
  deriving DecidableEq

namespace Parameters

def empty : Parameters := {}

instance : Inhabited Parameters := ⟨empty⟩

def names (t : Parameters) : List String := t.entries.keys

/-- The values of a parameter, none if it is absent. -/
def values (t : Parameters) (name : String) : List String :=
  (t.entries.lookup (Text.upper name)).getD []

def first? (t : Parameters) (name : String) : Option String := (t.values name).head?

def has (t : Parameters) (name : String) : Bool := t.entries.has (Text.upper name)

def isEmpty (t : Parameters) : Bool := t.entries.isEmpty

/-- The number of names. -/
def size (t : Parameters) : Nat := t.entries.length

/-- Adds a value after those that are there. -/
def put (t : Parameters) (name value : String) : Parameters where
  entries := t.entries.alter (Text.upper name) fun old => old.getD [] ++ [value]
  names_nodup := Keyed.nodup_keys_alter t.names_nodup _ _
  names_upper := by
    intro other h
    rw [Keyed.keys_alter] at h
    split at h
    · exact t.names_upper other h
    · rcases List.mem_append.1 h with h | h
      · exact t.names_upper other h
      · rw [List.mem_singleton.1 h, Text.upper_upper]
  values_ne_nil := by
    intro entry h
    rcases Keyed.mem_alter h with h | ⟨old, h⟩
    · exact t.values_ne_nil entry h
    · simp [h]

def putAll (t : Parameters) (name : String) (values : List String) : Parameters :=
  values.foldl (fun t value => t.put name value) t

def remove (t : Parameters) (name : String) : Parameters where
  entries := t.entries.without (Text.upper name)
  names_nodup := Keyed.nodup_keys_without t.names_nodup _
  names_upper := fun other h => t.names_upper other (Keyed.mem_keys_without.1 h).1
  values_ne_nil := fun entry h => t.values_ne_nil entry (List.mem_filter.1 h).1

/-- Removes a parameter; the first component is what it held. -/
def pop (t : Parameters) (name : String) : List String × Parameters :=
  (t.values name, t.remove name)

/-- Leaves one value under a name, or none; the first component is what it
held. The name moves to the end. -/
def replace (t : Parameters) (name : String) (value : Option String) :
    List String × Parameters :=
  let (previous, rest) := t.pop name
  (previous, value.elim rest (rest.put name))

/-- A table from names in any case with their values; a name without values
leaves no trace. -/
def ofEntries (entries : List (String × List String)) : Parameters :=
  entries.foldl (fun t entry => t.putAll entry.1 entry.2) empty

/-- Whether both tables give every name the same values; the order of the names
does not count. -/
def sameAs (t u : Parameters) : Bool :=
  t.entries.length == u.entries.length &&
    t.entries.all fun entry => u.entries.lookup entry.1 == some entry.2

/-- The table as it shows in listings. -/
def literal (t : Parameters) : String :=
  let listed := t.entries.map fun entry =>
    (Scalar.text entry.1, Value.list (entry.2.map Value.text))
  "VCardSubTypes(" ++ (Value.mapping listed).literal ++ ")"

end Parameters

end ContactCard
