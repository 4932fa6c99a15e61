import ContactCard.Proofs.Table
import Mathlib.Data.List.Nodup
import Mathlib.Data.List.Perm.Subperm

/-!
# Equality of parameter tables

Two tables are compared entry by entry.  Since no entry is without values and no name stands in
a table twice, it is the answers that are compared: tables are the same exactly when every name
has the same values in both.  The order in which the names came does not count, that of the
values does, and nothing is left of a name that was removed.  A copy of a table is the table
itself, as far as it can be compared.
-/

namespace ContactCard

/-- Where all that comes of an item is kept just if the item is, the items can be picked
instead. -/
theorem flatMap_filter {α β : Type} {f : α → List β} {keep : α → Bool} {keepEach : β → Bool}
    (hkeep : ∀ x, ∀ y ∈ f x, keepEach y = keep x) (xs : List α) :
    (xs.filter keep).flatMap f = (xs.flatMap f).filter keepEach := by
  induction xs with
  | nil => rfl
  | cons x rest ih =>
      rw [List.flatMap_cons, List.filter_append, ← ih]
      by_cases hx : keep x = true
      · have hall : (f x).filter keepEach = f x :=
          List.filter_eq_self.2 fun y hy => (hkeep x y hy).trans hx
        rw [List.filter_cons_of_pos hx, List.flatMap_cons, hall]
      · have hnone : (f x).filter keepEach = [] :=
          List.filter_eq_nil_iff.2 fun y hy h => hx ((hkeep x y hy).symm.trans h)
        rw [List.filter_cons_of_neg hx, hnone, List.nil_append]

namespace Keyed

variable {κ α : Type}

/-! ## Entries under distinct keys -/

section Lookup

variable [Key κ] [LawfulKey κ]

theorem lookup_eq_some_iff {t : Keyed κ α} (ht : (keys t).Nodup) {key : κ} {value : α} :
    lookup t key = some value ↔ (key, value) ∈ t := by
  constructor
  · intro hlookup
    obtain ⟨entry, hfind, rfl⟩ := Option.map_eq_some_iff.1 hlookup
    have hsame : Key.same entry.1 key = true := by simpa using List.find?_some hfind
    obtain rfl : entry.1 = key := (LawfulKey.same_iff _ _).1 hsame
    exact List.mem_of_find?_eq_some hfind
  · exact lookup_of_mem ht

theorem lookup_eq_of_perm {t u : Keyed κ α} (ht : (keys t).Nodup) (htu : t.Perm u) (key : κ) :
    lookup t key = lookup u key := by
  have hu : (keys u).Nodup := (htu.map _).nodup_iff.1 ht
  apply Option.ext
  intro value
  rw [lookup_eq_some_iff ht, lookup_eq_some_iff hu, htu.mem_iff]

theorem lookup_alter_self (t : Keyed κ α) (key : κ) (f : Option α → α) :
    lookup (alter key f t) key = some (f (lookup t key)) := by
  induction t with
  | nil => simp [alter, lookup, (LawfulKey.same_iff key key).2 rfl]
  | cons entry rest ih =>
      obtain ⟨other, value⟩ := entry
      by_cases hother : Key.same other key = true
      · simp [alter, lookup, hother]
      · simpa [alter, lookup, hother] using ih

end Lookup

/-! ## A history without a key -/

def Change.key : Change κ α → κ
  | .add key _ => key
  | .drop key => key

variable [DecidableEq κ] [DecidableEq α]

/-- Under the other keys a history leaves what it leaves without the changes under a key. -/
theorem standing_filter (key : κ) (history : List (Change κ α)) :
    standing (history.filter fun change => change.key ≠ key) =
      (standing history).filter fun addition => addition.1 ≠ key := by
  induction history with
  | nil => rfl
  | cons first later ih =>
      cases first with
      | add other x =>
          by_cases hother : other = key
          · rw [List.filter_cons_of_neg (by simp [Change.key, hother]), ih, standing]
            split
            · rfl
            · rw [List.filter_cons_of_neg (by simp [hother])]
          · have hdrop : Change.drop other ∈ (later.filter fun change => change.key ≠ key) ↔
                Change.drop other ∈ later := by
              simp [List.mem_filter, Change.key, hother]
            rw [List.filter_cons_of_pos (by simp [Change.key, hother]), standing, standing, ih]
            simp only [hdrop]
            split
            · rfl
            · rw [List.filter_cons_of_pos (by simp [hother])]
      | drop other =>
          rw [standing, ← ih]
          by_cases hother : other = key
          · rw [List.filter_cons_of_neg (by simp [Change.key, hother])]
          · rw [List.filter_cons_of_pos (by simp [Change.key, hother]), standing]

end Keyed

namespace Parameters

/-! ## What is compared -/

theorem mem_entries_iff (t : Parameters) (entry : String × List String) :
    entry ∈ t.entries ↔
      Text.upper entry.1 = entry.1 ∧ entry.2 ≠ [] ∧ t.values entry.1 = entry.2 := by
  constructor
  · intro hentry
    have hupper : Text.upper entry.1 = entry.1 := t.names_upper _ (List.mem_map_of_mem hentry)
    refine ⟨hupper, t.values_ne_nil entry hentry, ?_⟩
    rw [values, hupper, Keyed.lookup_of_mem t.names_nodup hentry, Option.getD_some]
  · rintro ⟨hupper, hne, hvalues⟩
    rw [values, hupper] at hvalues
    cases hlookup : t.entries.lookup entry.1 with
    | none =>
        rw [hlookup] at hvalues
        exact absurd hvalues.symm hne
    | some stored =>
        rw [hlookup] at hvalues
        obtain rfl : stored = entry.2 := hvalues
        exact (Keyed.lookup_eq_some_iff t.names_nodup).1 hlookup

theorem nodup_entries (t : Parameters) : t.entries.Nodup := t.names_nodup.of_map

theorem sameAs_iff_perm (t u : Parameters) :
    t.sameAs u = true ↔ t.entries.Perm u.entries := by
  rw [sameAs, Bool.and_eq_true, beq_iff_eq, List.all_eq_true]
  constructor
  · rintro ⟨hlength, hall⟩
    have hsubset : t.entries ⊆ u.entries := by
      intro entry hentry
      exact (Keyed.lookup_eq_some_iff u.names_nodup).1 (beq_iff_eq.1 (hall entry hentry))
    have hsubperm := List.subperm_of_subset t.nodup_entries hsubset
    exact hsubperm.perm_of_length_le (Nat.le_of_eq hlength.symm)
  · intro hperm
    refine ⟨hperm.length_eq, fun entry hentry => beq_iff_eq.2 ?_⟩
    exact Keyed.lookup_of_mem u.names_nodup (hperm.mem_iff.1 hentry)

theorem perm_entries_iff_values (t u : Parameters) :
    t.entries.Perm u.entries ↔ ∀ name, t.values name = u.values name := by
  constructor
  · intro hperm name
    rw [values, values, Keyed.lookup_eq_of_perm t.names_nodup hperm]
  · intro hvalues
    rw [List.perm_ext_iff_of_nodup t.nodup_entries u.nodup_entries]
    intro entry
    rw [mem_entries_iff, mem_entries_iff, hvalues]

theorem values_putAll (t : Parameters) (name : String) (added : List String) :
    (t.putAll name added).values name = t.values name ++ added := by
  induction added generalizing t with
  | nil => exact (List.append_nil _).symm
  | cons value rest ih =>
      have hput : (t.put name value).values name = t.values name ++ [value] := by
        rw [values, put, Keyed.lookup_alter_self, Option.getD_some, values]
      rw [putAll, List.foldl_cons]
      exact (ih (t.put name value)).trans (by rw [hput, List.append_assoc]; rfl)

/-! ## A history without a name -/

/-- The name that an operation is about. -/
def Operation.name : Operation → String
  | .put name _ | .replace name _ | .removeAll name => name
  | .addType _ => "TYPE"
  | .setText p _ => p.name
  | .setPref _ => "PREF"
  | .setSortAs _ => "SORT-AS"

/-- Whether two names are not the same parameter. -/
def areApart (name other : String) : Bool := Text.upper name ≠ Text.upper other

theorem key_of_mem_puts {name : String} {values : List Spelled} {change : Change}
    (hchange : change ∈ puts name values) : change.key = Text.upper name := by
  obtain ⟨v, -, rfl⟩ := List.mem_map.1 hchange
  rfl

theorem key_of_mem_writing {name : String} {v : Spelled} {change : Change}
    (hchange : change ∈ writing name v) : change.key = Text.upper name := by
  rcases List.mem_cons.1 hchange with rfl | hchange
  · rfl
  · exact key_of_mem_puts hchange

theorem key_of_mem_changes {operation : Operation} {change : Change}
    (hchange : change ∈ operation.changes) : change.key = Text.upper operation.name := by
  cases operation with
  | put name v => exact key_of_mem_puts hchange
  | replace name v => exact key_of_mem_writing hchange
  | removeAll name =>
      obtain rfl := List.mem_singleton.1 hchange
      rfl
  | addType v => exact key_of_mem_puts hchange
  | setText p v => exact key_of_mem_writing hchange
  | setPref v => exact key_of_mem_writing hchange
  | setSortAs values =>
      rcases List.mem_cons.1 hchange with rfl | hchange
      · rfl
      · exact key_of_mem_puts hchange

/-- A table from which a name was removed has the entries of one in which it was never put. -/
theorem entries_run_removeAll (initial : List (String × List Spelled))
    (operations : List Operation) (name : String) :
    (run initial (operations ++ [.removeAll name])).entries =
      (run (initial.filter fun entry => areApart entry.1 name)
        (operations.filter fun operation => areApart operation.name name)).entries := by
  have hhistory : history (initial.filter fun entry => areApart entry.1 name)
      (operations.filter fun operation => areApart operation.name name) =
        (history initial operations).filter fun change => change.key ≠ Text.upper name := by
    have hkey : ∀ {change : Change} {other : String}, change.key = Text.upper other →
        decide (change.key ≠ Text.upper name) = areApart other name := by
      rintro change other hchange
      rw [hchange, areApart]
    rw [history, history, List.filter_append,
      flatMap_filter (fun entry _ hchange => hkey (key_of_mem_puts hchange)),
      flatMap_filter (fun operation _ hchange => hkey (key_of_mem_changes hchange))]
  have hremoval : history initial (operations ++ [.removeAll name]) =
      history initial operations ++ [.drop (Text.upper name)] := by
    rw [history, List.flatMap_append, ← List.append_assoc]
    rfl
  rw [entries_run, entries_run, hhistory, hremoval, Keyed.standing_append_drop,
    Keyed.standing_filter]

/-- Two tables compare equal exactly when every name has the same values in both, which is when
they have the same entries in any order.  Values that are added in another order make another
table, and removing a name makes the table that its operations had no part in. -/
theorem sameAs_iff_values :
    (∀ t u : Parameters, t.sameAs u = true ↔ ∀ name, t.values name = u.values name) ∧
      (∀ t u : Parameters, t.sameAs u = true ↔ t.entries.Perm u.entries) ∧
      (∀ (t : Parameters) (name : String) (first second : List String),
        (t.putAll name first).sameAs (t.putAll name second) = true ↔ first = second) ∧
      ∀ (initial : List (String × List Spelled)) (operations : List Operation) (name : String),
        (run initial (operations ++ [.removeAll name])).sameAs
          (run (initial.filter fun entry => areApart entry.1 name)
            (operations.filter fun operation => areApart operation.name name)) = true := by
  have hvalues : ∀ t u : Parameters,
      t.sameAs u = true ↔ ∀ name, t.values name = u.values name := by
    intro t u
    rw [sameAs_iff_perm, perm_entries_iff_values]
  refine ⟨hvalues, sameAs_iff_perm, ?_, ?_⟩
  · intro t name first second
    constructor
    · intro hsame
      have hname := (hvalues _ _).1 hsame name
      rw [values_putAll, values_putAll] at hname
      exact List.append_cancel_left hname
    · rintro rfl
      exact (hvalues _ _).2 fun _ => rfl
  · intro initial operations name
    rw [sameAs_iff_perm, entries_run_removeAll]

/-- Names count by their upper case and in any order. -/
example : (run [("type", [⟨.text "home", rfl⟩]), ("pref", [⟨.text "1", rfl⟩])] []).sameAs
    (run [("Pref", [⟨.text "1", rfl⟩]), ("TYPE", [⟨.text "home", rfl⟩])] []) = true := by
  decide +kernel

end Parameters

end ContactCard
