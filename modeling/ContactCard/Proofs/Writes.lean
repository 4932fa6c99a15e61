import ContactCard.Proofs.Accessors
import ContactCard.Proofs.Fold
import ContactCard.Proofs.Spelling

/-!
# Writes of document values

A value of a document is written by its spelling, so a write goes well exactly when all that it
puts has one, and it then does what the operations on tables do.  A write that stops has changed
something before: a name that was to be set anew has lost its values, and stands there without
any.  Only a preference is spelled before the table is touched.  The other names are as they were
in any case.
-/

namespace ContactCard

theorem Keyed.without_alter {κ α : Type} [Key κ] [LawfulKey κ] (t : Keyed κ α) (key : κ)
    (f : Option α → α) : without (alter key f t) key = without t key := by
  have hkey : Key.same key key = true := (LawfulKey.same_iff key key).2 rfl
  induction t with
  | nil => simp [alter, without, hkey]
  | cons entry rest ih =>
      obtain ⟨other, value⟩ := entry
      rw [without, without] at ih
      by_cases hother : Key.same other key = true
      · simp [alter, without, hother]
      · simp [alter, without, hother, ih]

namespace Parameters

/-! ## Puts -/

theorem putValue_eq_ok_iff {t : Parameters} {name : String} {v : Value} {u : Parameters} :
    t.putValue name v = .ok u ↔ v.isSpelled = true ∧ u = t.put name v.spell := by
  rw [putValue, Value.spelling]
  cases v.isSpelled <;> simp [eq_comm]

theorem putValues_eq_ok_iff {t : Parameters} {name : String} {values : List Value}
    {u : Parameters} :
    t.putValues name values = .ok u ↔
      (∀ v ∈ values, v.isSpelled = true) ∧ u = t.putAll name (values.map Value.spell) := by
  rw [putValues, putAll, List.foldl_map]
  exact foldlM_eq_ok_iff (P := fun v : Value => v.isSpelled = true)
    (g := fun (t : Parameters) (v : Value) => t.put name v.spell) fun _ _ _ => putValue_eq_ok_iff

/-- A table is made of values exactly when they all have spellings. -/
theorem ofValues_eq_ok_iff {entries : List (String × List Value)} {u : Parameters} :
    ofValues entries = .ok u ↔
      (∀ entry ∈ entries, ∀ v ∈ entry.2, v.isSpelled = true) ∧
        u = ofEntries (entries.map fun entry => (entry.1, entry.2.map Value.spell)) := by
  rw [ofValues, ofEntries, List.foldl_map]
  exact foldlM_eq_ok_iff
    (P := fun entry : String × List Value => ∀ v ∈ entry.2, v.isSpelled = true)
    (g := fun (t : Parameters) entry => t.putAll entry.1 (entry.2.map Value.spell))
    fun _ _ _ => putValues_eq_ok_iff

/-- A put that stops has entered the name. -/
theorem left_of_putValue {t : Parameters} {name : String} {v : Value} {e : WriteError}
    (he : t.putValue name v = .error e) :
    e.left = t.entries.alter (Text.upper name) fun old => old.getD [] := by
  rw [putValue] at he
  split at he
  · cases he
  · cases he
    rfl

theorem without_left_of_putValues {t : Parameters} {name : String} {values : List Value}
    {e : WriteError} (he : t.putValues name values = .error e) :
    e.left.without (Text.upper name) = t.entries.without (Text.upper name) := by
  obtain ⟨before, v, after, u, -, hbefore, hv⟩ := foldlM_eq_error_iff_exists.1 he
  obtain ⟨-, rfl⟩ := putValues_eq_ok_iff.1 hbefore
  rw [left_of_putValue hv, Keyed.without_alter]
  -- The puts before the one that stopped are under the name, too.
  generalize before.map Value.spell = texts
  clear hbefore hv he
  induction texts generalizing t with
  | nil => rfl
  | cons s rest ih =>
      have hput : (t.put name s).entries.without (Text.upper name) =
          t.entries.without (Text.upper name) := Keyed.without_alter t.entries _ _
      rw [← hput]
      exact ih

/-! ## Writes -/

theorem putValues_singleton (t : Parameters) (name : String) (v : Value) :
    t.putValues name [v] = t.putValue name v := by
  rw [putValues, List.foldlM_cons]
  cases t.putValue name v <;> rfl

/-- The values that are put where a name is set to a value: none for `null`. -/
def given : Value → List Value
  | .null => []
  | v => [v]

theorem setValue_eq_putValues (t : Parameters) (name : String) (v : Value) :
    t.setValue name v = (t.remove name).putValues name (given v) := by
  fun_cases setValue t name v with
  | case1 => rfl
  | case2 v hv => rw [given.eq_2 v hv, putValues_singleton]

namespace Write

/-- The values that a write puts, if it can be asked for them. -/
def values? : Write → Value → Option (List Value)
  | .put _, v | .addType, v => some [v]
  | .replace _, v | .text _, v | .pref, v => some (given v)
  | .sortAs, v => v.items?

/-- The table that a write puts its values into. -/
def base (t : Parameters) : Write → Parameters
  | .put _ | .addType => t
  | w => t.remove w.name

end Write

/-- A write puts its values one by one, but a preference is spelled first. -/
theorem attempt_eq_putValues (t : Parameters) {w : Write} (hw : w ≠ .pref) (v : Value) :
    t.attempt w v =
      match w.values? v with
      | some values => (w.base t).putValues w.name values
      | none => .error ⟨.noItems, (w.base t).entries⟩ := by
  cases w with
  | put name => exact (t.putValues_singleton name v).symm
  | replace name => exact t.setValue_eq_putValues name v
  | addType => exact (t.putValues_singleton "TYPE" v).symm
  | text p => exact t.setValue_eq_putValues p.name v
  | pref => exact absurd rfl hw
  | sortAs =>
      rw [attempt, setSortValues]
      rfl

/-- A preference that can be set is set as any other value. -/
theorem setPrefValue_eq_ok_iff {t : Parameters} {v : Value} {u : Parameters} :
    t.setPrefValue v = .ok u ↔ (t.remove "PREF").putValues "PREF" (given v) = .ok u := by
  fun_cases setPrefValue t v with
  | case1 => rfl
  | case2 v hv s hs => rw [given.eq_2 v hv, putValues_singleton, putValue, hs]
  | case3 v hv e he =>
      rw [given.eq_2 v hv, putValues_singleton, putValue, he]
      simp only [reduceCtorEq]

/-- A write goes well exactly when its values have spellings, and then has put these. -/
theorem attempt_eq_ok_iff {t : Parameters} {w : Write} {v : Value} {u : Parameters} :
    t.attempt w v = .ok u ↔
      ∃ values, w.values? v = some values ∧ (∀ x ∈ values, x.isSpelled = true) ∧
        u = (w.base t).putAll w.name (values.map Value.spell) := by
  have hputs : t.attempt w v = .ok u ↔
      ∃ values, w.values? v = some values ∧ (w.base t).putValues w.name values = .ok u := by
    by_cases hw : w = .pref
    · subst hw
      simp only [Write.values?, Option.some.injEq, exists_eq_left']
      exact setPrefValue_eq_ok_iff
    · rw [attempt_eq_putValues t hw]
      cases w.values? v <;> simp
  simpa only [putValues_eq_ok_iff] using hputs

/-- A preference that cannot be set leaves the table. -/
theorem left_of_setPrefValue {t : Parameters} {v : Value} {e : WriteError}
    (he : t.setPrefValue v = .error e) : e.left = t.entries := by
  revert he
  fun_cases setPrefValue t v with
  | case1 => exact nofun
  | case2 => exact nofun
  | case3 v hv fault hfault =>
      rintro ⟨⟩
      rfl

/-- A name that cannot be set has lost its values and stands at the end without any. -/
theorem left_of_setValue {t : Parameters} {name : String} {v : Value} {e : WriteError}
    (he : t.setValue name v = .error e) :
    e.left = t.entries.without (Text.upper name) ++ [(Text.upper name, [])] := by
  have hremoved : (t.remove name).entries = t.entries.without (Text.upper name) ++ [] :=
    (List.append_nil _).symm
  revert he
  fun_cases setValue t name v with
  | case1 => exact nofun
  | case2 v hv =>
      intro he
      rw [left_of_putValue he, hremoved, Keyed.alter_append (Keyed.has_without _ _)]
      rfl

/-- Whatever is left of a write that stops, the other names are as they were. -/
theorem without_left_of_attempt {t : Parameters} {w : Write} {v : Value} {e : WriteError}
    (he : t.attempt w v = .error e) :
    e.left.without (Text.upper w.name) = t.entries.without (Text.upper w.name) := by
  have hbase : (w.base t).entries.without (Text.upper w.name) =
      t.entries.without (Text.upper w.name) := by
    cases w with
    | put name => rfl
    | addType => rfl
    | replace name => exact Keyed.without_without _ _
    | text p => exact Keyed.without_without _ _
    | pref => exact Keyed.without_without _ _
    | sortAs => exact Keyed.without_without _ _
  by_cases hw : w = .pref
  · subst hw
    rw [left_of_setPrefValue he]
  · rw [attempt_eq_putValues t hw] at he
    split at he
    · rw [without_left_of_putValues he, hbase]
    · cases he
      exact hbase

/-! ## Operations -/

namespace Operation

/-- An operation as it is asked for, with document values that might not have a spelling. -/
def ask (t : Parameters) : Operation → Except WriteError Parameters
  | .put name v => t.attempt (.put name) v.value
  | .replace name v => t.attempt (.replace name) v.value
  | .removeAll name => .ok (t.remove name)
  | .addType v => t.attempt .addType v.value
  | .setText p v => t.attempt (.text p) v.value
  | .setPref v => t.attempt .pref v.value
  | .setSortAs values => t.attempt .sortAs (.list (values.map Spelled.value))

end Operation

theorem map_spell_given (v : Spelled) : (given v.value).map Value.spell = v.content?.toList := by
  obtain ⟨value, _⟩ := v
  cases value with
  | scalar s => cases s <;> rfl
  | list items => rfl
  | mapping entries => rfl
  | pair first second => rfl

theorem isSpelled_given (v : Spelled) : ∀ x ∈ given v.value, x.isSpelled = true := by
  intro x hx
  obtain rfl : x = v.value := by
    revert hx
    fun_cases given v.value with
    | case1 => exact fun hx => absurd hx List.not_mem_nil
    | case2 => exact List.mem_singleton.1
  exact v.isSpelled

theorem setValue_eq_replace (t : Parameters) (name : String) (v : Spelled) :
    t.setValue name v.value = .ok (t.replace name v.content?).2 := by
  rw [setValue_eq_putValues, putValues_eq_ok_iff, map_spell_given]
  refine ⟨isSpelled_given v, ?_⟩
  cases v.content? <;> rfl

/-- What is asked for goes well, and is what the operation does. -/
theorem ask_eq_ok (t : Parameters) (operation : Operation) :
    operation.ask t = .ok (t.perform operation) := by
  cases operation with
  | put name v => exact putValue_eq_ok_iff.2 ⟨v.isSpelled, rfl⟩
  | replace name v => exact t.setValue_eq_replace name v
  | removeAll name => rfl
  | addType v => exact putValue_eq_ok_iff.2 ⟨v.isSpelled, rfl⟩
  | setText p v => exact t.setValue_eq_replace p.name v
  | setPref v =>
      have hset := t.setValue_eq_replace "PREF" v
      rw [setValue_eq_putValues] at hset
      exact setPrefValue_eq_ok_iff.2 hset
  | setSortAs values =>
      refine putValues_eq_ok_iff.2 ⟨List.forall_mem_map.2 fun v _ => v.isSpelled, ?_⟩
      rw [List.map_map]
      rfl

theorem ofValues_spelled (initial : List (String × List Spelled)) :
    ofValues (initial.map fun entry => (entry.1, entry.2.map Spelled.value)) =
      .ok (ofEntries (initial.map fun entry => (entry.1, entry.2.map Spelled.text))) := by
  refine ofValues_eq_ok_iff.2 ⟨?_, ?_⟩
  · exact List.forall_mem_map.2 fun entry _ => List.forall_mem_map.2 fun v _ => v.isSpelled
  · simp only [List.map_map, Function.comp_def]
    rfl

/-- A table made of values, and what is asked of it one after another, is the run. -/
theorem asked_eq_run (initial : List (String × List Spelled)) (operations : List Operation) :
    (ofValues (initial.map fun entry => (entry.1, entry.2.map Spelled.value)) >>=
      operations.foldlM Operation.ask) = .ok (run initial operations) := by
  refine bind_eq_ok.2 ⟨_, ofValues_spelled initial, ?_⟩
  have hask : ∀ t operation u,
      Operation.ask t operation = .ok u ↔ True ∧ u = t.perform operation := by
    intro t operation u
    rw [ask_eq_ok, Except.ok.injEq, true_and, eq_comm]
  exact (foldlM_eq_ok_iff hask).2 ⟨fun _ _ => trivial, rfl⟩

end Parameters

end ContactCard
