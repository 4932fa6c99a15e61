/-!
# Keyed lists

A finite map that keeps the order in which its keys were first added, as a
list of pairs. What counts as the same key is a property of the key type.
-/

namespace ContactCard

/-- When two keys name the same entry. -/
class Key (κ : Type) where
  same : κ → κ → Bool

instance : Key String := ⟨fun a b => a == b⟩

/-- Keys that are the same only when they are equal. -/
class LawfulKey (κ : Type) [Key κ] : Prop where
  same_iff : ∀ a b : κ, Key.same a b = true ↔ a = b

instance : LawfulKey String := ⟨fun a b => by simp [Key.same]⟩

/-- Pairs of a key and a value; the first pair with a key counts. -/
abbrev Keyed (κ α : Type) := List (κ × α)

namespace Keyed

variable {κ α : Type} [Key κ]

def lookup (t : Keyed κ α) (key : κ) : Option α :=
  (t.find? fun entry => Key.same entry.1 key).map (·.2)

def has (t : Keyed κ α) (key : κ) : Bool := t.any fun entry => Key.same entry.1 key

/-- Changes the value under a key in place, or adds one at the end; `f` sees
the value that is there. -/
def alter (key : κ) (f : Option α → α) : Keyed κ α → Keyed κ α
  | [] => [(key, f none)]
  | (other, value) :: rest =>
    if Key.same other key then (other, f (some value)) :: rest
    else (other, value) :: alter key f rest

/-- Puts a value under a key; a key that is there keeps its place. -/
def insert (t : Keyed κ α) (key : κ) (value : α) : Keyed κ α := t.alter key fun _ => value

def without (t : Keyed κ α) (key : κ) : Keyed κ α := t.filter fun entry => !Key.same entry.1 key

def keys (t : Keyed κ α) : List κ := t.map (·.1)

/-- Adds pairs one after another; later values win, first places stay. -/
def ofPairs (pairs : List (κ × α)) : Keyed κ α :=
  pairs.foldl (fun t entry => insert t entry.1 entry.2) []

variable [LawfulKey κ]

theorem has_iff_mem_keys (t : Keyed κ α) (key : κ) : has t key = true ↔ key ∈ keys t := by
  induction t with
  | nil => simp [has, keys]
  | cons entry rest ih =>
    simp only [has, keys, List.any_cons, Bool.or_eq_true, List.map_cons, List.mem_cons] at ih ⊢
    rw [ih, LawfulKey.same_iff, eq_comm]

omit [LawfulKey κ] in
theorem keys_alter (t : Keyed κ α) (key : κ) (f : Option α → α) :
    keys (alter key f t) = if has t key then keys t else keys t ++ [key] := by
  induction t with
  | nil => simp [alter, keys, has]
  | cons entry rest ih =>
    obtain ⟨other, value⟩ := entry
    simp only [keys, has] at ih
    by_cases h : Key.same other key = true
    · simp [alter, keys, has, h]
    · simp only [alter, h, keys, has, Bool.false_eq_true, if_false, List.map_cons, List.any_cons,
        Bool.false_or, ih]
      by_cases found : (rest.any fun entry => Key.same entry.1 key) = true <;> simp [found]

theorem nodup_keys_alter {t : Keyed κ α} (h : (keys t).Nodup) (key : κ) (f : Option α → α) :
    (keys (alter key f t)).Nodup := by
  rw [keys_alter]
  split
  · exact h
  · next fresh =>
    rw [has_iff_mem_keys] at fresh
    rw [List.nodup_append]
    refine ⟨h, by simp, fun a ha b hb => ?_⟩
    rw [List.mem_singleton.1 hb]
    exact fun e => fresh (e ▸ ha)

omit [LawfulKey κ] in
theorem mem_alter {t : Keyed κ α} {key : κ} {f : Option α → α} {entry : κ × α}
    (h : entry ∈ alter key f t) : entry ∈ t ∨ ∃ old, entry.2 = f old := by
  induction t with
  | nil =>
    rw [alter, List.mem_singleton] at h
    exact .inr ⟨none, by rw [h]⟩
  | cons head rest ih =>
    obtain ⟨other, value⟩ := head
    rw [alter] at h
    split at h
    · rcases List.mem_cons.1 h with rfl | h
      · exact .inr ⟨some value, rfl⟩
      · exact .inl (List.mem_cons_of_mem _ h)
    · rcases List.mem_cons.1 h with rfl | h
      · exact .inl List.mem_cons_self
      · exact (ih h).imp_left (List.mem_cons_of_mem _)

/-! What holds of all values goes on holding of them when entries are looked up or put in. -/

section Values

variable {P : α → Prop} {t : Keyed κ α}

omit [LawfulKey κ] in
theorem forall_lookup (ht : ∀ entry ∈ t, P entry.2) {key : κ} {value : α}
    (h : lookup t key = some value) : P value := by
  obtain ⟨entry, hentry, rfl⟩ := Option.map_eq_some_iff.1 h
  exact ht entry (List.mem_of_find?_eq_some hentry)

omit [LawfulKey κ] in
theorem forall_insert (ht : ∀ entry ∈ t, P entry.2) (key : κ) {value : α} (hvalue : P value) :
    ∀ entry ∈ insert t key value, P entry.2 := by
  intro entry hentry
  rcases mem_alter hentry with hmem | ⟨_, heq⟩
  · exact ht entry hmem
  · rwa [heq]

omit [LawfulKey κ] in
theorem forall_ofPairs {pairs : List (κ × α)} (hpairs : ∀ pair ∈ pairs, P pair.2) :
    ∀ entry ∈ ofPairs pairs, P entry.2 := by
  have hfrom : ∀ t : Keyed κ α, (∀ entry ∈ t, P entry.2) →
      ∀ entry ∈ pairs.foldl (fun t entry => insert t entry.1 entry.2) t, P entry.2 := by
    induction pairs with
    | nil => exact fun _ ht => ht
    | cons pair rest ih =>
      obtain ⟨hpair, hrest⟩ := List.forall_mem_cons.1 hpairs
      exact fun t ht => ih hrest _ (forall_insert ht pair.1 hpair)
  exact hfrom [] (by simp)

end Values

theorem mem_keys_without {t : Keyed κ α} {key name : κ} :
    name ∈ keys (without t key) ↔ name ∈ keys t ∧ name ≠ key := by
  simp only [keys, without, List.mem_map, List.mem_filter]
  constructor
  · rintro ⟨entry, ⟨hmem, hne⟩, rfl⟩
    refine ⟨⟨entry, hmem, rfl⟩, fun e => ?_⟩
    simp [(LawfulKey.same_iff entry.1 key).2 e] at hne
  · rintro ⟨⟨entry, hmem, rfl⟩, hne⟩
    refine ⟨entry, ⟨hmem, ?_⟩, rfl⟩
    simpa using fun h => hne ((LawfulKey.same_iff _ _).1 h)

omit [LawfulKey κ] in
theorem nodup_keys_without {t : Keyed κ α} (h : (keys t).Nodup) (key : κ) :
    (keys (without t key)).Nodup :=
  h.sublist (List.filter_sublist.map _)

end Keyed

end ContactCard
