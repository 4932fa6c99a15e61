import ContactCard.Proofs.Entry
import Mathlib.Data.List.Induction

/-!
# Pairs under plain keys

A key is plain when no other key is the same.  Pairs under plain keys are put in one after
another as into a finite map: a later value takes the place of an earlier one, values under
different keys do not meet, and pairs that were put together first can be put in as they are.
-/

namespace ContactCard

namespace Keyed

variable {κ α : Type} [Key κ]

/-- A key that is the same as itself only. -/
def IsPlain (key : κ) : Prop := ∀ other, Key.same other key = true ↔ other = key

theorem IsPlain.same {key : κ} (hkey : IsPlain key) : Key.same key key = true := (hkey key).2 rfl

theorem IsPlain.has_iff {key : κ} (hkey : IsPlain key) (t : Keyed κ α) :
    has t key = true ↔ key ∈ keys t := by
  simp [has, keys, hkey _]

theorem IsPlain.mem_of_lookup {key : κ} (hkey : IsPlain key) {t : Keyed κ α} {value : α}
    (h : lookup t key = some value) : (key, value) ∈ t := by
  obtain ⟨⟨other, found⟩, hfind, rfl⟩ := Option.map_eq_some_iff.1 h
  have hsame := List.find?_some hfind
  obtain rfl := (hkey other).1 hsame
  exact List.mem_of_find?_eq_some hfind

theorem lookup_insert_of_ne {key other : κ} (hkey : IsPlain key) (hother : IsPlain other)
    (hne : key ≠ other) (t : Keyed κ α) (value : α) :
    lookup (insert t key value) other = lookup t other := by
  have hapart : ¬Key.same key other = true := fun h => hne ((hother key).1 h)
  induction t with
  | nil => simp [insert, alter, lookup, hapart]
  | cons entry rest ih =>
      obtain ⟨first, old⟩ := entry
      by_cases hfirst : Key.same first key = true
      · obtain rfl := (hkey first).1 hfirst
        simp [insert, alter, lookup, hfirst, hapart]
      · rw [insert, alter, if_neg hfirst]
        by_cases hsame : Key.same first other = true
        · simp [lookup, hsame]
        · simpa [insert, lookup, hsame] using ih

theorem insert_insert {key : κ} (hkey : IsPlain key) (t : Keyed κ α) (value later : α) :
    insert (insert t key value) key later = insert t key later := by
  induction t with
  | nil => simp [insert, alter, hkey.same]
  | cons entry rest ih =>
      obtain ⟨first, old⟩ := entry
      by_cases hfirst : Key.same first key = true
      · simp [insert, alter, hfirst]
      · simpa [insert, alter, hfirst] using ih

/-- A key that is there can be put in before or after another one. -/
theorem insert_comm {key other : κ} (hkey : IsPlain key) (hother : IsPlain other)
    (hne : key ≠ other) {t : Keyed κ α} (ht : key ∈ keys t) (value added : α) :
    insert (insert t key value) other added = insert (insert t other added) key value := by
  induction t with
  | nil => cases ht
  | cons entry rest ih =>
      obtain ⟨first, old⟩ := entry
      by_cases hfirst : Key.same first key = true
      · obtain rfl := (hkey first).1 hfirst
        have hapart : ¬Key.same first other = true := fun h => hne ((hother first).1 h)
        simp [insert, alter, hfirst, hapart]
      · by_cases hsame : Key.same first other = true
        · simp [insert, alter, hfirst, hsame]
        · have hrest : key ∈ keys rest := by
            rcases List.mem_cons.1 ht with rfl | hrest
            · exact absurd hkey.same hfirst
            · exact hrest
          simpa [insert, alter, hfirst, hsame] using ih hrest

theorem insertAll_cons (t : Keyed κ α) (entry : κ × α) (rest : List (κ × α)) :
    insertAll t (entry :: rest) = insertAll (insert t entry.1 entry.2) rest := rfl

theorem insertAll_append (t : Keyed κ α) (pairs more : List (κ × α)) :
    insertAll t (pairs ++ more) = insertAll (insertAll t pairs) more := List.foldl_append

theorem IsPlain.mem_insert {key : κ} (hkey : IsPlain key) {t : Keyed κ α} {value : α}
    {entry : κ × α} (hentry : entry ∈ insert t key value) : entry ∈ t ∨ entry = (key, value) := by
  induction t with
  | nil => exact .inr (List.mem_singleton.1 hentry)
  | cons first rest ih =>
      obtain ⟨other, old⟩ := first
      by_cases hother : Key.same other key = true
      · rw [insert, alter, if_pos hother, (hkey other).1 hother] at hentry
        rcases List.mem_cons.1 hentry with rfl | hrest
        · exact .inr rfl
        · exact .inl (List.mem_cons_of_mem _ hrest)
      · rw [insert, alter, if_neg hother] at hentry
        rcases List.mem_cons.1 hentry with rfl | hrest
        · exact .inl List.mem_cons_self
        · exact (ih hrest).imp_left (List.mem_cons_of_mem _)

theorem IsPlain.nodup_keys_insert {key : κ} (hkey : IsPlain key) {t : Keyed κ α}
    (ht : (keys t).Nodup) (value : α) : (keys (insert t key value)).Nodup := by
  rw [insert, keys_alter]
  split
  · exact ht
  · next fresh =>
    rw [hkey.has_iff] at fresh
    rw [List.nodup_append]
    refine ⟨ht, by simp, fun first hfirst second hsecond heq => ?_⟩
    rw [List.mem_singleton.1 hsecond] at heq
    exact fresh (heq ▸ hfirst)

theorem IsPlain.mem_keys_insert {key : κ} (hkey : IsPlain key) (t : Keyed κ α) (value : α) :
    key ∈ keys (insert t key value) := by
  rw [insert, keys_alter]
  split
  · next hthere => exact (hkey.has_iff t).1 hthere
  · exact List.mem_append_right _ (List.mem_singleton_self key)

/-- Pairs whose keys are plain. -/
def ArePlain (pairs : List (κ × α)) : Prop := ∀ entry ∈ pairs, IsPlain entry.1

theorem ArePlain.insert {t : Keyed κ α} (ht : ArePlain t) {key : κ} (hkey : IsPlain key)
    (value : α) : ArePlain (insert t key value) := by
  intro entry hentry
  rcases hkey.mem_insert hentry with hmem | rfl
  · exact ht entry hmem
  · exact hkey

theorem ArePlain.insertAll {t pairs : Keyed κ α} (ht : ArePlain t) (hpairs : ArePlain pairs) :
    ArePlain (insertAll t pairs) := by
  induction pairs generalizing t with
  | nil => exact ht
  | cons entry rest ih =>
      obtain ⟨hentry, hrest⟩ := List.forall_mem_cons.1 hpairs
      exact ih (ht.insert hentry entry.2) hrest

theorem ArePlain.nodup_keys_insertAll {t pairs : Keyed κ α} (hpairs : ArePlain pairs)
    (ht : (keys t).Nodup) : (keys (Keyed.insertAll t pairs)).Nodup := by
  induction pairs generalizing t with
  | nil => exact ht
  | cons entry rest ih =>
      obtain ⟨hentry, hrest⟩ := List.forall_mem_cons.1 hpairs
      exact ih hrest (hentry.nodup_keys_insert ht entry.2)

theorem ArePlain.mem_insertAll {t pairs : Keyed κ α} (hpairs : ArePlain pairs) {entry : κ × α}
    (hentry : entry ∈ Keyed.insertAll t pairs) : entry ∈ t ∨ entry ∈ pairs := by
  induction pairs generalizing t with
  | nil => exact .inl hentry
  | cons first rest ih =>
      obtain ⟨hfirst, hrest⟩ := List.forall_mem_cons.1 hpairs
      rcases ih hrest hentry with hmem | hmem
      · rcases hfirst.mem_insert hmem with hmem | rfl
        · exact .inl hmem
        · exact .inr List.mem_cons_self
      · exact .inr (List.mem_cons_of_mem _ hmem)

/-- What is put in under a key that is there already can be put in first. -/
theorem insertAll_insert_of_mem {key : κ} (hkey : IsPlain key) {pairs : List (κ × α)}
    (hpairs : ArePlain pairs) (hfresh : key ∉ keys pairs) {t : Keyed κ α} (ht : key ∈ keys t)
    (value : α) :
    insertAll (insert t key value) pairs = insert (insertAll t pairs) key value := by
  induction pairs generalizing t with
  | nil => rfl
  | cons entry rest ih =>
      obtain ⟨hentry, hrest⟩ := List.forall_mem_cons.1 hpairs
      obtain ⟨hne, hfresh⟩ := not_or.1 (List.mem_cons.not.1 hfresh)
      have hkept : key ∈ keys (insert t entry.1 entry.2) := by
        rw [insert, keys_alter]
        split
        · exact ht
        · exact List.mem_append_left _ ht
      rw [insertAll_cons, insertAll_cons, insert_comm hkey hentry hne ht]
      exact ih hrest hfresh hkept

/-- To put in pairs that a value was put into is to put in the pairs, and then the value. -/
theorem insertAll_insert {key : κ} (hkey : IsPlain key) {pairs : Keyed κ α}
    (hpairs : ArePlain pairs) (hnodup : (keys pairs).Nodup) (t : Keyed κ α) (value : α) :
    insertAll t (insert pairs key value) = insert (insertAll t pairs) key value := by
  induction pairs generalizing t with
  | nil => rfl
  | cons entry rest ih =>
      obtain ⟨other, old⟩ := entry
      obtain ⟨hother, hrest⟩ := List.forall_mem_cons.1 hpairs
      obtain ⟨hfresh, hnodup⟩ := List.nodup_cons.1 hnodup
      by_cases hsame : Key.same other key = true
      · obtain rfl := (hkey other).1 hsame
        rw [insert, alter, if_pos hsame, insertAll_cons, insertAll_cons,
          ← insertAll_insert_of_mem hkey hrest hfresh (hkey.mem_keys_insert t old),
          insert_insert hkey]
      · rw [insert, alter, if_neg hsame, insertAll_cons, insertAll_cons]
        exact ih hrest hnodup _

theorem insertAll_insertAll {pairs : List (κ × α)} (hpairs : ArePlain pairs) (t : Keyed κ α) :
    insertAll t (insertAll [] pairs) = insertAll t pairs := by
  induction pairs using List.reverseRecOn with
  | nil => rfl
  | append_singleton pairs last ih =>
      have hinit : ArePlain pairs := fun entry h => hpairs entry (List.mem_append_left _ h)
      have hlast : IsPlain last.1 := hpairs last (by simp)
      have hplain : ArePlain (insertAll [] pairs) := ArePlain.insertAll (by simp [ArePlain]) hinit
      have hnodup : (keys (insertAll [] pairs)).Nodup := hinit.nodup_keys_insertAll List.nodup_nil
      rw [insertAll_append, insertAll_append, ← ih hinit]
      exact insertAll_insert hlast hplain hnodup t last.2

end Keyed

end ContactCard
