import ContactCard.Proofs.Description
import ContactCard.Proofs.Spelling
import Mathlib.Data.List.Nodup
import Mathlib.Data.List.Perm.Subperm

/-!
# What a jCard entry holds

The object of an entry has the group of its property under a reserved key and the
parameters under their lower-cased names.  Nothing is lost exactly while these keys are
distinct: a parameter with the name of the reserved key displaces the group, and names
that are distinct may meet in lower case.
-/

namespace ContactCard

/-! ## Keys that are put in one after another -/

namespace Keyed

variable {κ α : Type}

theorem keys_append (t u : Keyed κ α) : keys (t ++ u) = keys t ++ keys u := List.map_append

theorem keys_cons (entry : κ × α) (t : Keyed κ α) : keys (entry :: t) = [entry.1] ++ keys t := rfl

variable [Key κ]

/-- Adds pairs one after another; later values win, first places stay. -/
def insertAll (t pairs : Keyed κ α) : Keyed κ α :=
  pairs.foldl (fun t entry => insert t entry.1 entry.2) t

variable [LawfulKey κ]

theorem insert_of_not_mem {t : Keyed κ α} {key : κ} (hkey : key ∉ keys t) (value : α) :
    insert t key value = t ++ [(key, value)] := by
  induction t with
  | nil => rfl
  | cons entry rest ih =>
      obtain ⟨other, old⟩ := entry
      rw [keys, List.map_cons, List.mem_cons, not_or] at hkey
      have hsame : ¬Key.same other key = true := fun h =>
        hkey.1 ((LawfulKey.same_iff other key).1 h).symm
      rw [insert, alter, if_neg hsame]
      exact congrArg _ (ih hkey.2)

/-- Pairs under new and distinct keys are appended as they are. -/
theorem insertAll_of_nodup {t pairs : Keyed κ α} (hkeys : (keys t ++ keys pairs).Nodup) :
    insertAll t pairs = t ++ pairs := by
  induction pairs generalizing t with
  | nil => simp [insertAll]
  | cons entry rest ih =>
      have hentry : entry.1 ∉ keys t := by
        intro hmem
        exact (List.nodup_append.1 hkeys).2.2 _ hmem _ List.mem_cons_self rfl
      have hrest : (keys (t ++ [entry]) ++ keys rest).Nodup := by
        rw [keys_append, List.append_assoc]
        exact hkeys
      rw [insertAll, List.foldl_cons, insert_of_not_mem hentry]
      exact (ih hrest).trans (List.append_assoc t [entry] rest)

theorem nodup_keys_insertAll {t : Keyed κ α} (ht : (keys t).Nodup) (pairs : Keyed κ α) :
    (keys (insertAll t pairs)).Nodup := by
  induction pairs generalizing t with
  | nil => exact ht
  | cons entry rest ih => exact ih (nodup_keys_alter ht entry.1 _)

omit [LawfulKey κ] in
theorem keys_insertAll_subset (t pairs : Keyed κ α) :
    keys (insertAll t pairs) ⊆ keys t ++ keys pairs := by
  induction pairs generalizing t with
  | nil => simp [insertAll, keys]
  | cons entry rest ih =>
      have hinsert : keys (insert t entry.1 entry.2) ⊆ keys t ++ [entry.1] := by
        rw [insert, keys_alter]
        split
        · exact List.subset_append_left _ _
        · exact List.Subset.refl _
      intro key hkey
      rw [keys_cons, ← List.append_assoc]
      rcases List.mem_append.1 (ih (insert t entry.1 entry.2) hkey) with hmem | hmem
      · exact List.mem_append_left _ (hinsert hmem)
      · exact List.mem_append_right _ hmem

omit [LawfulKey κ] in
/-- What holds of the values that are there and of those that are put in holds of all. -/
theorem forall_insertAll {P : α → Prop} {t pairs : Keyed κ α}
    (ht : ∀ entry ∈ t, P entry.2) (hpairs : ∀ entry ∈ pairs, P entry.2) :
    ∀ entry ∈ insertAll t pairs, P entry.2 := by
  induction pairs generalizing t with
  | nil => exact ht
  | cons first rest ih =>
      obtain ⟨hfirst, hrest⟩ := List.forall_mem_cons.1 hpairs
      refine ih ?_ hrest
      intro entry hentry
      rcases mem_alter hentry with hmem | ⟨old, hold⟩
      · exact ht entry hmem
      · exact hold ▸ hfirst

/-- All pairs are there in the end exactly when their keys are distinct. -/
theorem length_insertAll_iff {t : Keyed κ α} (ht : (keys t).Nodup) (pairs : Keyed κ α) :
    (insertAll t pairs).length = t.length + pairs.length ↔ (keys t ++ keys pairs).Nodup := by
  constructor
  · intro hlength
    have hsubperm := List.subperm_of_subset (nodup_keys_insertAll ht pairs)
      (keys_insertAll_subset t pairs)
    have hperm := hsubperm.perm_of_length_le (by simp [keys, hlength])
    exact hperm.nodup_iff.1 (nodup_keys_insertAll ht pairs)
  · intro hkeys
    rw [insertAll_of_nodup hkeys, List.length_append]

end Keyed

/-! ## The object of an entry -/

namespace JCard

/-- The keys of the parameters in an object. -/
def loweredNames (t : Parameters) : List String :=
  (t.names.filter (· ≠ "VALUE")).map Text.lower

/-- The group of a property and all its parameters but the value type are in an object. -/
structure Holds (object : Keyed String Value) (group : Option String) (t : Parameters) : Prop where
  parameters : ∀ name values, (name, values) ∈ t.entries → name ≠ "VALUE" →
    object.lookup (Text.lower name) = some (parameterValue values)
  grouped : ∀ g, group = some g → object.lookup "group" = some (.text g)
  size : object.length =
    (t.names.filter (· ≠ "VALUE")).length + if group.isSome then 1 else 0

/-- The pairs that go into an object: the label of the bucket, then the parameters. -/
def groupPairs (label : Scalar) : Keyed String Value :=
  if label = .null then [] else [("group", .scalar label)]

def parameterPairs (t : Parameters) : Keyed String Value :=
  (t.entries.filter fun entry => entry.1 ≠ "VALUE").map fun entry =>
    (Text.lower entry.1, parameterValue entry.2)

theorem parameters_eq (label : Scalar) (t : Parameters) :
    parameters label t = (groupPairs label).insertAll (parameterPairs t) := by
  rw [parameters, Keyed.insertAll, parameterPairs, List.foldl_map]
  rfl

theorem keys_parameterPairs (t : Parameters) : (parameterPairs t).keys = loweredNames t := by
  simp [parameterPairs, Keyed.keys, loweredNames, Parameters.names, List.filter_map,
    Function.comp_def]

theorem nodup_keys_groupPairs (label : Scalar) : (groupPairs label).keys.Nodup := by
  rw [groupPairs]
  split <;> simp [Keyed.keys]

/-- Nothing is lost exactly while all keys are distinct. -/
theorem holds_parameters_iff (group : Option String) (t : Parameters) :
    Holds (parameters (Scalar.ofName? group) t) group t ↔
      (loweredNames t).Nodup ∧ (group.isSome → "group" ∉ loweredNames t) := by
  have hdistinct : ((groupPairs (.ofName? group)).keys ++ (parameterPairs t).keys).Nodup ↔
      (loweredNames t).Nodup ∧ (group.isSome → "group" ∉ loweredNames t) := by
    rw [keys_parameterPairs]
    cases group with
    | none => simp [Scalar.ofName?, groupPairs, Keyed.keys]
    | some g => simp [Scalar.ofName?, groupPairs, Keyed.keys, List.nodup_cons, and_comm]
  have hgroupSize : (groupPairs (.ofName? group)).length = if group.isSome then 1 else 0 := by
    cases group <;> rfl
  have hsize : (parameterPairs t).length = (t.names.filter (· ≠ "VALUE")).length := by
    have hkeys := congrArg List.length (keys_parameterPairs t)
    simpa [Keyed.keys, loweredNames] using hkeys
  rw [parameters_eq, ← hdistinct]
  constructor
  · intro hholds
    rw [← Keyed.length_insertAll_iff (nodup_keys_groupPairs (.ofName? group)), hholds.size, hsize,
      hgroupSize, Nat.add_comm]
  · intro hkeys
    have hnodup :=
      Keyed.nodup_keys_insertAll (nodup_keys_groupPairs (.ofName? group)) (parameterPairs t)
    rw [Keyed.insertAll_of_nodup hkeys] at hnodup ⊢
    constructor
    case parameters =>
      intro name values hentry hname
      have hmem : (Text.lower name, parameterValue values) ∈ parameterPairs t :=
        List.mem_map.2 ⟨(name, values), List.mem_filter.2 ⟨hentry, by simpa using hname⟩, rfl⟩
      exact Keyed.lookup_of_mem hnodup (List.mem_append_right _ hmem)
    case grouped =>
      rintro g rfl
      exact Keyed.lookup_of_mem hnodup (List.mem_append_left _ List.mem_cons_self)
    case size => rw [List.length_append, hsize, hgroupSize, Nat.add_comm]

/-- The Kelvin sign is in upper case and becomes the letter in lower case. -/
example : loweredNames ((Parameters.empty.put "k" "1").put "\u212a" "2") = ["k", "k"] := by
  decide

/-! ## Entries -/

/-- A label that counts as the same as that of a named group is that label. -/
theorem label_eq_ofName? {label : Scalar} {group : Option String}
    (hlabel : label = Scalar.ofName? group ∨ Key.same label (Scalar.ofName? group) = true) :
    label = Scalar.ofName? group := by
  rcases hlabel with heq | hsame
  · exact heq
  · rcases Scalar.eq_or_numbers_of_same hsame with heq | ⟨-, hnumber⟩
    · exact heq
    · simp at hnumber

/-- Every emitted property has an entry, and where it is ungrouped or in a group named by
text, the object of its entry holds the group and all parameters exactly while their
lower-cased names are distinct and, under a group, none of them is its key. -/
theorem entries_hold_iff {target : Target} {card : Card} {r : Record (List Entry)}
    (hr : record target card = .ok r) :
    ∃ placed : List (Scalar × Property),
      (placed.map (·.2)).Perm
        ((card.listed target.addGenerator).filter (card.Emits target.version)) ∧
      r.output = .ofVersion target.version ::
        placed.map (fun entry => entryOf target card entry.1 entry.2) ∧
      ∀ label p, (label, p) ∈ placed → (p.group = .null ∨ ∃ s, p.group = .text s) →
        (Holds (entryOf target card label p).parameters p.groupName?
            (card.parametersOf target p) ↔
          (loweredNames (card.parametersOf target p)).Nodup ∧
            (p.groupName?.isSome → "group" ∉ loweredNames (card.parametersOf target p))) := by
  rw [record] at hr
  obtain ⟨sections, hsections, hgather⟩ := bind_eq_ok.1 hr
  cases hgather
  obtain ⟨buckets, hperm, hlabelled, houtputs⟩ :=
    (writesAs target card).outputs_sections hsections
  refine ⟨card.emittedIn target.version buckets, ?_, congrArg (_ :: ·) houtputs, ?_⟩
  · rw [Card.snd_emittedIn]
    exact hperm.filter _
  · intro label p hplaced hgroup
    obtain ⟨own, hown, hlabel⟩ := Card.label_of_mem_emittedIn hlabelled hplaced
    obtain rfl : Scalar.ofName? p.groupName? = own :=
      Option.some.inj ((Property.HasNamedGroup.label? hgroup).symm.trans hown)
    have hname : label = Scalar.ofName? p.groupName? := label_eq_ofName? hlabel
    rw [entryOf, hname]
    exact holds_parameters_iff p.groupName? (card.parametersOf target p)

/-- A name in a group, with a parameter of two values. -/
def groupedName (parameter : String) : Property where
  name := "FN"
  group := .text "home"
  parameters := (Parameters.empty.put parameter "1").put parameter "2"
  body := .text .formattedName (some "Ann")

def groupedCard (parameter : String) : Card := { standard := [groupedName parameter] }

/-- The description of a card of a grouped name. -/
def groupedDescription (parameter : String) : Value := .mapping [
  (.text "fn", .mapping [
    (.text "value", .text "Ann"),
    (.text "group", .text "home"),
    (.text "parameters", .mapping [(.text parameter, .list [.text "1", .text "2"])])])]

/-- A parameter of another name stands beside the group. -/
theorem entries_hold_groupedCard :
    ∃ r, ∃ placed : List (Scalar × Property),
      record { addGenerator := false } (groupedCard "x-p") = .ok r ∧
      (placed.map (·.2)).Perm [groupedName "x-p"] ∧
      r.output = .ofVersion .v40 :: placed.map (fun entry =>
        entryOf { addGenerator := false } (groupedCard "x-p") entry.1 entry.2) ∧
      ∀ label p, (label, p) ∈ placed →
        Holds (entryOf { addGenerator := false } (groupedCard "x-p") label p).parameters
          (some "home") p.parameters := by
  obtain ⟨r, hr⟩ : ∃ r, record { addGenerator := false } (groupedCard "x-p") = .ok r := ⟨_, rfl⟩
  obtain ⟨placed, hperm, houtput, hholds⟩ := entries_hold_iff hr
  refine ⟨r, placed, hr, hperm, houtput, ?_⟩
  intro label p hplaced
  obtain rfl : p = groupedName "x-p" :=
    List.mem_singleton.1 (hperm.mem_iff.1 (List.mem_map_of_mem hplaced))
  exact (hholds label (groupedName "x-p") hplaced (.inr ⟨"home", rfl⟩)).2 (by decide)

/-- A parameter that is named like the key of the group displaces it. -/
theorem not_holds_groupParameter :
    ∃ r, Card.ofValue (groupedDescription "group") = .ok (groupedCard "group") ∧
      record { addGenerator := false } (groupedCard "group") = .ok r ∧
      r.output = [.ofVersion .v40, entryOf { addGenerator := false } (groupedCard "group")
        (.text "home") (groupedName "group")] ∧
      (entryOf { addGenerator := false } (groupedCard "group") (.text "home")
        (groupedName "group")).parameters = [("group", .list [.text "1", .text "2"])] ∧
      ¬Holds (entryOf { addGenerator := false } (groupedCard "group") (.text "home")
        (groupedName "group")).parameters (some "home") (groupedName "group").parameters := by
  refine ⟨_, rfl, rfl, rfl, rfl, fun hholds => ?_⟩
  have hsize : (1 : Nat) = 1 + 1 := hholds.size
  omega

end JCard

end ContactCard
