import ContactCard.Proofs.Grouping
import Mathlib.Data.List.Induction

/-!
# The history of lists under keys

Under every key stands a list: values are added at its end, and a key is dropped with all its
values.  An addition stands as long as its key is not dropped after it.  Whatever has happened,
the lists hold just the additions that stand, and the keys come in the order in which these
first name them.
-/

namespace ContactCard

theorem eraseDups_filter {α : Type} [BEq α] [LawfulBEq α] (keep : α → Bool) (xs : List α) :
    (xs.filter keep).eraseDups = xs.eraseDups.filter keep := by
  cases xs with
  | nil => rfl
  | cons x rest =>
      have hrest := eraseDups_filter keep (rest.filter fun y => !y == x)
      rw [List.eraseDups_cons]
      by_cases hx : keep x = true
      · rw [List.filter_cons_of_pos hx, List.eraseDups_cons, List.filter_cons_of_pos hx, ← hrest,
          List.filter_filter, List.filter_filter]
        simp only [Bool.and_comm]
      · -- Where `x` is not kept, its repetitions are not kept either.
        have hothers : (rest.filter fun y => !y == x).filter keep = rest.filter keep := by
          rw [List.filter_filter]
          apply List.filter_congr
          intro y _
          by_cases hy : y = x
          · subst hy
            simp [hx]
          · simp [hy]
        rw [List.filter_cons_of_neg hx, List.filter_cons_of_neg hx, ← hrest, hothers]
termination_by xs.length
decreasing_by
  have := List.length_filter_le (fun y => !y == x) rest
  simp only [List.length_cons]
  omega

namespace Keyed

/-- What happens to lists under keys. -/
inductive Change (κ α : Type)
  | add (key : κ) (x : α)
  | drop (key : κ)
  deriving DecidableEq

variable {κ α : Type}

def change [Key κ] (t : Keyed κ (List α)) : Change κ α → Keyed κ (List α)
  | .add key x => t.alter key fun old => old.getD [] ++ [x]
  | .drop key => t.without key

variable [DecidableEq κ]

/-! ## Additions that stand -/

section Standing

variable [DecidableEq α]

/-- The additions that stand, in order: those with no drop of their key after them. -/
def standing : List (Change κ α) → List (κ × α)
  | [] => []
  | .add key x :: later => if .drop key ∈ later then standing later else (key, x) :: standing later
  | .drop _ :: later => standing later

/-- What stands has been added. -/
theorem add_mem_of_mem_standing {history : List (Change κ α)} {key : κ} {x : α}
    (h : (key, x) ∈ standing history) : .add key x ∈ history := by
  induction history with
  | nil => cases h
  | cons first later ih =>
      cases first with
      | add other y =>
          rw [standing] at h
          split at h
          · exact List.mem_cons_of_mem _ (ih h)
          · rcases List.mem_cons.1 h with heq | h
            · cases heq
              exact List.mem_cons_self
            · exact List.mem_cons_of_mem _ (ih h)
      | drop other => exact List.mem_cons_of_mem _ (ih h)

theorem standing_append_add (history : List (Change κ α)) (key : κ) (x : α) :
    standing (history ++ [.add key x]) = standing history ++ [(key, x)] := by
  induction history with
  | nil => simp [standing]
  | cons first later ih =>
      cases first with
      | add other y =>
          rw [List.cons_append, standing, standing, ih]
          by_cases hdrop : Change.drop other ∈ later <;> simp [hdrop]
      | drop other => exact ih

theorem standing_append_drop (history : List (Change κ α)) (key : κ) :
    standing (history ++ [.drop key]) =
      (standing history).filter fun addition => addition.1 ≠ key := by
  induction history with
  | nil => simp [standing]
  | cons first later ih =>
      cases first with
      | add other y =>
          rw [List.cons_append, standing, standing, ih]
          by_cases hdrop : Change.drop other ∈ later
          · simp [hdrop]
          · by_cases hkey : other = key
            · subst hkey
              simp [hdrop]
            · simp [hdrop, hkey]
      | drop other => exact ih

end Standing

/-! ## Values by key -/

/-- The values under a key. -/
def valuesUnder (key : κ) (additions : List (κ × α)) : List α :=
  (additions.filter fun addition => addition.1 = key).map (·.2)

/-- The keys in the order in which they first come up. -/
def firstKeys (additions : List (κ × α)) : List κ := (additions.map (·.1)).eraseDups

def gathered (additions : List (κ × α)) : Keyed κ (List α) :=
  (firstKeys additions).map fun key => (key, valuesUnder key additions)

theorem keys_gathered (additions : List (κ × α)) :
    keys (gathered additions) = firstKeys additions := by
  rw [keys, gathered, List.map_map]
  exact List.map_id _

theorem nodup_firstKeys (additions : List (κ × α)) : (firstKeys additions).Nodup :=
  nodup_eraseDups _

theorem mem_firstKeys {key : κ} {additions : List (κ × α)} :
    key ∈ firstKeys additions ↔ ∃ x, (key, x) ∈ additions := by
  simp [firstKeys]

theorem valuesUnder_eq_nil_iff {key : κ} {additions : List (κ × α)} :
    valuesUnder key additions = [] ↔ key ∉ firstKeys additions := by
  rw [mem_firstKeys, valuesUnder, List.map_eq_nil_iff, List.filter_eq_nil_iff]
  constructor
  · rintro hnone ⟨x, hmem⟩
    exact hnone (key, x) hmem (decide_eq_true rfl)
  · rintro hnone ⟨name, x⟩ hmem hkey
    obtain rfl : name = key := of_decide_eq_true hkey
    exact hnone ⟨x, hmem⟩

theorem firstKeys_append (additions : List (κ × α)) (key : κ) (x : α) :
    firstKeys (additions ++ [(key, x)]) =
      if key ∈ firstKeys additions then firstKeys additions else firstKeys additions ++ [key] := by
  rw [firstKeys, List.map_append, List.map_singleton, eraseDups_append_singleton]
  simp only [firstKeys, List.mem_eraseDups]

theorem valuesUnder_append (name : κ) (additions : List (κ × α)) (key : κ) (x : α) :
    valuesUnder name (additions ++ [(key, x)]) =
      if name = key then valuesUnder name additions ++ [x] else valuesUnder name additions := by
  by_cases hname : name = key
  · simp [valuesUnder, hname]
  · have hkey : key ≠ name := fun h => hname h.symm
    simp [valuesUnder, hname, hkey]

theorem valuesUnder_filter_of_ne {name key : κ} (hname : name ≠ key) (additions : List (κ × α)) :
    valuesUnder name (additions.filter fun addition => addition.1 ≠ key) =
      valuesUnder name additions := by
  rw [valuesUnder, valuesUnder, List.filter_filter]
  congr 1
  apply List.filter_congr
  intro addition _
  by_cases hkey : addition.1 = name
  · simp [hkey, hname]
  · simp [hkey]

variable [Key κ] [LawfulKey κ]

theorem same_eq_decide (first second : κ) :
    Key.same first second = decide (first = second) := by
  rw [Bool.eq_iff_iff, LawfulKey.same_iff, decide_eq_true_iff]

theorem lookup_gathered (key : κ) (additions : List (κ × α)) :
    ((gathered additions).lookup key).getD [] = valuesUnder key additions := by
  have hfind : (gathered additions).lookup key =
      ((firstKeys additions).find? (· = key)).map fun name => valuesUnder name additions := by
    rw [lookup, gathered, List.find?_map, Option.map_map]
    simp only [Function.comp_def, same_eq_decide]
  rw [hfind]
  cases hname : (firstKeys additions).find? (· = key) with
  | some name =>
      obtain rfl : name = key := by simpa using List.find?_some hname
      rfl
  | none =>
      have hkey : key ∉ firstKeys additions := by
        intro hmem
        simpa using List.find?_eq_none.1 hname key hmem
      exact (valuesUnder_eq_nil_iff.2 hkey).symm

/-- One more addition goes to the end of the list under its key. -/
theorem gathered_append (additions : List (κ × α)) (key : κ) (x : α) :
    gathered (additions ++ [(key, x)]) = (gathered additions).change (.add key x) := by
  have halter : (gathered additions).change (.add key x) = _ :=
    alter_map same_eq_decide (nodup_firstKeys additions) (valuesUnder · additions) key _
  rw [halter, gathered, firstKeys_append]
  by_cases hkey : key ∈ firstKeys additions
  · rw [if_pos hkey, if_pos hkey]
    apply List.map_congr_left
    intro name _
    rw [valuesUnder_append]
    rfl
  · have hothers : ∀ name ∈ firstKeys additions, name ≠ key := fun name hname h => hkey (h ▸ hname)
    rw [if_neg hkey, if_neg hkey, List.map_append, List.map_singleton, valuesUnder_append,
      if_pos rfl, valuesUnder_eq_nil_iff.2 hkey]
    congr 1
    apply List.map_congr_left
    intro name hname
    rw [valuesUnder_append, if_neg (hothers name hname)]

/-- Without the additions under a key there is no list under it. -/
theorem gathered_filter (additions : List (κ × α)) (key : κ) :
    gathered (additions.filter fun addition => addition.1 ≠ key) =
      (gathered additions).change (.drop key) := by
  have hkeys : firstKeys (additions.filter fun addition => addition.1 ≠ key) =
      (firstKeys additions).filter (· ≠ key) := by
    rw [firstKeys, firstKeys, ← eraseDups_filter, List.filter_map]
    rfl
  rw [change, without, gathered, gathered, hkeys, List.filter_map]
  simp only [Function.comp_def, same_eq_decide, decide_not]
  apply List.map_congr_left
  intro name hname
  have hne : name ≠ key := by simpa using (List.mem_filter.1 hname).2
  have hvalues := valuesUnder_filter_of_ne hne additions
  simp only [ne_eq, decide_not] at hvalues
  rw [hvalues]

/-- The lists hold just the additions that stand. -/
theorem foldl_change [DecidableEq α] (history : List (Change κ α)) :
    history.foldl change [] = gathered (standing history) := by
  induction history using List.reverseRecOn with
  | nil => rfl
  | append_singleton history last ih =>
      rw [List.foldl_append, List.foldl_cons, List.foldl_nil, ih]
      cases last with
      | add key x => rw [standing_append_add, gathered_append]
      | drop key => rw [standing_append_drop, gathered_filter]

end Keyed

end ContactCard
