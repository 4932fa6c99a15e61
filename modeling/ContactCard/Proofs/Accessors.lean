import ContactCard.Parameters.Accessor
import ContactCard.Proofs.Integer
import ContactCard.Proofs.Sameness

/-!
# Laws of the common parameters

The common parameters are read and written by their meaning.  Writing takes the name out of the
table and puts it at the end with its new values, if there are any.  So what was written is read
again, the last of two writes decides the whole table, and the other entries stay as they are, in
their order.  Reading leaves the table alone, also where a preference turns out to be no integer.
-/

namespace ContactCard

/-! ## Keys apart from one -/

namespace Keyed

variable {κ α : Type} [Key κ]

theorem without_append (t u : Keyed κ α) (key : κ) :
    without (t ++ u) key = without t key ++ without u key :=
  List.filter_append t u

theorem without_without (t : Keyed κ α) (key : κ) :
    without (without t key) key = without t key := by
  simp [without, List.filter_filter]

theorem has_without (t : Keyed κ α) (key : κ) : has (without t key) key = false := by
  simp [has, without, List.any_filter]

/-- A key that is not in front is changed behind. -/
theorem alter_append {t : Keyed κ α} {key : κ} (hkey : has t key = false)
    (f : Option α → α) (u : Keyed κ α) : alter key f (t ++ u) = t ++ alter key f u := by
  induction t with
  | nil => rfl
  | cons entry rest ih =>
      obtain ⟨hentry, hrest⟩ : Key.same entry.1 key = false ∧ has rest key = false := by
        simpa [has] using hkey
      rw [List.cons_append, alter, if_neg (by simp [hentry]), ih hrest, List.cons_append]

theorem lookup_without_of_ne [LawfulKey κ] {key other : κ} (hother : other ≠ key)
    (t : Keyed κ α) : lookup (without t key) other = lookup t other := by
  rw [lookup, lookup, without, List.find?_filter]
  congr 2
  funext entry
  rw [Bool.eq_iff_iff, decide_eq_true_iff]
  refine and_iff_right_of_imp fun hsame => ?_
  rw [(LawfulKey.same_iff _ _).1 hsame, Bool.not_eq_true', Bool.eq_false_iff, ne_eq,
    LawfulKey.same_iff]
  exact hother

/-- The entry of a key, if it has values. -/
def held (key : κ) : List α → Keyed κ (List α)
  | [] => []
  | values => [(key, values)]

variable [LawfulKey κ]

theorem alter_held (key : κ) (values : List α) (x : α) :
    alter key (fun old => old.getD [] ++ [x]) (held key values) = held key (values ++ [x]) := by
  cases values with
  | nil => rfl
  | cons first rest => simp [held, alter, (LawfulKey.same_iff key key).2 rfl]

theorem without_held (key : κ) (values : List α) : without (held key values) key = [] := by
  cases values with
  | nil => rfl
  | cons first rest => simp [held, without, (LawfulKey.same_iff key key).2 rfl]

end Keyed

/-- A text is its own spelling. -/
def Spelled.ofText (s : String) : Spelled := ⟨.text s, rfl⟩

theorem Spelled.map_text_map_ofText (values : List String) :
    (values.map ofText).map text = values := by
  rw [List.map_map]
  exact List.map_id _

namespace Parameters

theorem eq_of_entries_eq {t u : Parameters} (h : t.entries = u.entries) : t = u := by
  cases t
  cases u
  cases h
  rfl

/-! ## Overwriting a name -/

/-- Leaves just some values under a name, which moves to the end. -/
def overwrite (t : Parameters) (name : String) (values : List String) : Parameters :=
  (t.remove name).putAll name values

theorem entries_put (t : Parameters) (name value : String) :
    (t.put name value).entries =
      t.entries.alter (Text.upper name) fun old => old.getD [] ++ [value] := rfl

theorem entries_putAll_append {t : Parameters} {name : String}
    {others : Keyed String (List String)} {stored : List String}
    (hothers : others.has (Text.upper name) = false)
    (ht : t.entries = others ++ Keyed.held (Text.upper name) stored) (added : List String) :
    (t.putAll name added).entries = others ++ Keyed.held (Text.upper name) (stored ++ added) := by
  induction added generalizing t stored with
  | nil => rw [List.append_nil, ← ht]; rfl
  | cons value rest ih =>
      have hput : (t.put name value).entries =
          others ++ Keyed.held (Text.upper name) (stored ++ [value]) := by
        rw [entries_put, ht, Keyed.alter_append hothers, Keyed.alter_held]
      rw [List.append_cons]
      exact ih hput

theorem entries_overwrite (t : Parameters) (name : String) (values : List String) :
    (t.overwrite name values).entries =
      t.entries.without (Text.upper name) ++ Keyed.held (Text.upper name) values := by
  have hremoved : (t.remove name).entries =
      t.entries.without (Text.upper name) ++ Keyed.held (Text.upper name) [] :=
    (List.append_nil _).symm
  exact entries_putAll_append (Keyed.has_without _ _) hremoved values

theorem without_entries_overwrite (t : Parameters) (name : String) (values : List String) :
    (t.overwrite name values).entries.without (Text.upper name) =
      t.entries.without (Text.upper name) := by
  rw [entries_overwrite, Keyed.without_append, Keyed.without_without, Keyed.without_held,
    List.append_nil]

/-- Of two overwritings of a name the last one counts. -/
theorem overwrite_overwrite (t : Parameters) (name : String) (first second : List String) :
    (t.overwrite name first).overwrite name second = t.overwrite name second := by
  apply eq_of_entries_eq
  rw [entries_overwrite, without_entries_overwrite, ← entries_overwrite]

theorem values_remove_self (t : Parameters) (name : String) : (t.remove name).values name = [] := by
  have hnone : (t.remove name).entries.lookup (Text.upper name) = none := by
    rw [Keyed.lookup, Option.map_eq_none_iff, List.find?_eq_none]
    have hhas : (t.remove name).entries.has (Text.upper name) = false := Keyed.has_without _ _
    simpa [Keyed.has] using hhas
  rw [values, hnone, Option.getD_none]

theorem values_overwrite_self (t : Parameters) (name : String) (values : List String) :
    (t.overwrite name values).values name = values := by
  rw [overwrite, values_putAll, values_remove_self, List.nil_append]

/-! ## What stays -/

/-- Whether two tables are the same apart from one name. -/
structure KeepsOthers (t : Parameters) (name : String) (u : Parameters) : Prop where
  values : ∀ other, areApart other name = true → u.values other = t.values other
  names : (u.names.filter fun other => areApart other name) =
    t.names.filter fun other => areApart other name

theorem filter_names_areApart (t : Parameters) (name : String) :
    (t.names.filter fun other => areApart other name) =
      (t.entries.without (Text.upper name)).keys := by
  rw [names, Keyed.keys, Keyed.keys, Keyed.without, List.filter_map]
  congr 1
  apply List.filter_congr
  intro entry hentry
  have hupper : Text.upper entry.1 = entry.1 := t.names_upper _ (List.mem_map_of_mem hentry)
  rw [Function.comp_apply, areApart, hupper, Keyed.same_eq_decide, ← decide_not]

theorem keepsOthers_overwrite (t : Parameters) (name : String) (values : List String) :
    t.KeepsOthers name (t.overwrite name values) where
  values := by
    intro other hother
    have hne : Text.upper other ≠ Text.upper name := of_decide_eq_true hother
    rw [Parameters.values, Parameters.values, ← Keyed.lookup_without_of_ne hne,
      without_entries_overwrite, Keyed.lookup_without_of_ne hne]
  names := by
    rw [filter_names_areApart, filter_names_areApart, without_entries_overwrite]

/-! ## One parameter -/

theorem setText_eq_overwrite (t : Parameters) (p : TextParameter) (x : Option String) :
    t.setText p x = t.overwrite p.name x.toList := by
  cases x <;> rfl

theorem setPref_eq_overwrite (t : Parameters) (x : Option Int) :
    t.setPref x = t.overwrite "PREF" (x.map Integer.write).toList := by
  cases x <;> rfl

theorem first?_overwrite_self (t : Parameters) (name : String) (x : Option String) :
    (t.overwrite name x.toList).first? name = x := by
  rw [first?, values_overwrite_self, Option.head?_toList]

theorem text?_setText (t : Parameters) (p : TextParameter) (x : Option String) :
    (t.setText p x).text? p = x := by
  rw [setText_eq_overwrite, text?, first?_overwrite_self]

/-- A preference comes back from its decimal text. -/
theorem pref?_setPref (t : Parameters) {x : Option Int}
    (hx : ∀ n, x = some n → Integer.isWritable n = true) : (t.setPref x).pref? = .ok x := by
  rw [setPref_eq_overwrite, pref?, first?_overwrite_self]
  cases x with
  | none => rfl
  | some n => simp only [Option.map_some, Integer.read?_write (hx n rfl)]

theorem sortAs_setSortAs (t : Parameters) (values : List String) :
    (t.setSortAs values).sortAs = values :=
  t.values_overwrite_self "SORT-AS" values

/-- Only a table without a name has no value under it. -/
theorem values_eq_nil_iff (t : Parameters) (name : String) :
    t.values name = [] ↔ Text.upper name ∉ t.names := by
  constructor
  · intro hvalues hname
    obtain ⟨entry, hentry, hkey⟩ := List.mem_map.1 hname
    obtain ⟨-, hne, hstored⟩ := (t.mem_entries_iff entry).1 hentry
    rw [hkey, values, Text.upper_upper] at hstored
    exact hne (hstored.symm.trans hvalues)
  · intro hname
    by_contra hne
    have hentry : (Text.upper name, t.values name) ∈ t.entries := by
      rw [mem_entries_iff]
      refine ⟨Text.upper_upper name, hne, ?_⟩
      rw [values, values, Text.upper_upper]
    exact hname (List.mem_map_of_mem hentry)

theorem first?_eq_none_iff (t : Parameters) (name : String) :
    t.first? name = none ↔ Text.upper name ∉ t.names := by
  rw [first?, List.head?_eq_none_iff, values_eq_nil_iff]

/-! ## Accessors -/

/-- Writing a content that can be written, as an operation on tables. -/
def Accessor.writing : (a : Accessor) → (x : a.Content) → a.takes x = true → Operation
  | .text p, x, hx => .setText p ⟨value (.text p) x, hx⟩
  | .pref, x, hx => .setPref ⟨value .pref x, hx⟩
  | .sortAs, values, _ => .setSortAs (values.map Spelled.ofText)

/-- Writing is what the operation on tables does. -/
theorem write_eq_perform (t : Parameters) (a : Accessor) (x : a.Content)
    (hx : a.takes x = true) : t.write a x = t.perform (a.writing x hx) := by
  cases a with
  | text p => cases x <;> rfl
  | pref => cases x <;> rfl
  | sortAs => exact congrArg t.setSortAs (Spelled.map_text_map_ofText x).symm

theorem exists_write_eq_overwrite (a : Accessor) (x : a.Content) :
    ∃ values, ∀ t : Parameters, t.write a x = t.overwrite a.name values := by
  cases a with
  | text p => exact ⟨_, fun t => t.setText_eq_overwrite p x⟩
  | pref => exact ⟨_, fun t => t.setPref_eq_overwrite x⟩
  | sortAs => exact ⟨x, fun _ => rfl⟩

/-- What was written is read. -/
theorem read_write (t : Parameters) {a : Accessor} {x : a.Content} (hx : a.takes x = true) :
    (t.write a x).read a = .ok x := by
  cases a with
  | text p => exact congrArg Except.ok (t.text?_setText p x)
  | pref =>
      have hwritable : ∀ n, x = some n → Integer.isWritable n = true := by
        rintro n rfl
        exact hx
      exact t.pref?_setPref hwritable
  | sortAs => exact congrArg Except.ok (t.sortAs_setSortAs x)

/-- Of two writes the last one counts. -/
theorem write_write (t : Parameters) (a : Accessor) (x y : a.Content) :
    (t.write a x).write a y = t.write a y := by
  obtain ⟨first, hfirst⟩ := exists_write_eq_overwrite a x
  obtain ⟨second, hsecond⟩ := exists_write_eq_overwrite a y
  rw [hfirst, hsecond, hsecond, overwrite_overwrite]

theorem keepsOthers_write (t : Parameters) (a : Accessor) (x : a.Content) :
    t.KeepsOthers a.name (t.write a x) := by
  obtain ⟨values, hvalues⟩ := exists_write_eq_overwrite a x
  rw [hvalues]
  exact t.keepsOthers_overwrite a.name values

/-! ## Programs -/

theorem run_get_of_ok {t : Parameters} {a : Accessor} {x : a.Content} (hx : t.read a = .ok x) :
    a.get.run t = .ok x t := by
  simp only [Accessor.get, EStateM.run_bind, EStateM.run_get, hx]
  rfl

theorem run_get_of_error {t : Parameters} {a : Accessor} {e : BadPreference}
    (he : t.read a = .error e) : a.get.run t = .error e.message t := by
  simp only [Accessor.get, EStateM.run_bind, EStateM.run_get, he]
  rfl

theorem run_set {t : Parameters} {a : Accessor} {x : a.Content} (hx : a.takes x = true) :
    (a.set x).run t = .ok () (t.write a x) := by
  rw [Accessor.set, if_pos hx]
  rfl

/-- What reading a preference gives, and that it leaves the table: nothing if there is none, else
the integer that its first value stands for, or the refusal of this value. -/
structure AnswersPreference (t : Parameters) : Prop where
  absent_iff : ∀ u, (Accessor.get .pref).run t = .ok none u ↔ u = t ∧ "PREF" ∉ t.names
  integer_iff : ∀ n u, (Accessor.get .pref).run t = .ok (some n) u ↔
    u = t ∧ ∃ s, t.first? "PREF" = some s ∧ Integer.read? s = some n
  refused_iff : ∀ e u, (Accessor.get .pref).run t = .error e u ↔
    u = t ∧ ∃ s, t.first? "PREF" = some s ∧ Integer.read? s = none ∧
      e = (BadPreference.mk s).message

theorem answersPreference (t : Parameters) : t.AnswersPreference := by
  have habsent : t.first? "PREF" = none ↔ "PREF" ∉ t.names := t.first?_eq_none_iff "PREF"
  cases hfirst : t.first? "PREF" with
  | none =>
      have hrun : (Accessor.get .pref).run t = .ok none t := by
        apply run_get_of_ok
        rw [read, pref?, hfirst]
      constructor <;> simp [hrun, hfirst, ← habsent, eq_comm]
  | some s =>
      cases hread : Integer.read? s with
      | none =>
          have hrun : (Accessor.get .pref).run t = .error (BadPreference.mk s).message t := by
            apply run_get_of_error
            rw [read, pref?, hfirst]
            simp only [hread]
          constructor <;> simp [hrun, hfirst, hread, ← habsent, eq_comm, and_comm]
      | some n =>
          have hrun : (Accessor.get .pref).run t = .ok (some n) t := by
            apply run_get_of_ok
            rw [read, pref?, hfirst]
            simp only [hread]
          constructor <;> simp [hrun, hfirst, hread, ← habsent, eq_comm, and_comm]

/-- A content that can be written is read again, a second one leaves the table that it would leave
alone, and the names apart from the written one keep their values and their order.  Reading a
preference leaves every table as it is, and answers by the first value. -/
theorem accessors_areLawful (t : Parameters) {a : Accessor} {x y : a.Content}
    (hx : a.takes x = true) (hy : a.takes y = true) :
    (a.set x).run t = .ok () (t.perform (a.writing x hx)) ∧
      a.get.run (t.perform (a.writing x hx)) = .ok x (t.perform (a.writing x hx)) ∧
      (a.set y).run (t.perform (a.writing x hx)) = (a.set y).run t ∧
      t.KeepsOthers a.name (t.perform (a.writing x hx)) ∧
      t.AnswersPreference := by
  rw [← write_eq_perform]
  refine ⟨run_set hx, ?_, ?_, t.keepsOthers_write a x, t.answersPreference⟩
  · exact run_get_of_ok (t.read_write hx)
  · rw [run_set hy, run_set hy, write_write]

/-- A table with several preferences in the midst of other parameters. -/
def preferredTable : Parameters :=
  run [("type", [.ofText "home"]), ("Pref", [.ofText "1", .ofText "high"]),
    ("language", [.ofText "en"])] []

/-- A negative preference takes the place of the others, behind the last name. -/
theorem accessors_areLawful_preferredTable :
    Accessor.takes .pref (some (-7)) = true ∧ Accessor.takes .pref none = true ∧
      ∃ u, (Accessor.set .pref (some (-7))).run preferredTable = .ok () u ∧
        u.entries = [("TYPE", ["home"]), ("LANGUAGE", ["en"]), ("PREF", ["-7"])] ∧
        (Accessor.get .pref).run u = .ok (some (-7)) u ∧
        (Accessor.set .pref none).run u = (Accessor.set .pref none).run preferredTable ∧
        preferredTable.KeepsOthers "PREF" u ∧
        (Accessor.get .pref).run preferredTable = .ok (some 1) preferredTable := by
  have hx : Accessor.takes .pref (some (-7)) = true := by decide +kernel
  have hy : Accessor.takes .pref none = true := by decide +kernel
  obtain ⟨hset, hget, hagain, hothers, hanswers⟩ := preferredTable.accessors_areLawful hx hy
  have hentries : (preferredTable.write .pref (some (-7))).entries =
      [("TYPE", ["home"]), ("LANGUAGE", ["en"]), ("PREF", ["-7"])] := by decide +kernel
  have hfirst : preferredTable.first? "PREF" = some "1" ∧ Integer.read? "1" = some 1 := by
    decide +kernel
  rw [write_eq_perform preferredTable .pref (some (-7)) hx] at hentries
  refine ⟨hx, hy, _, hset, hentries, hget, hagain, hothers, ?_⟩
  exact (hanswers.integer_iff 1 preferredTable).2 ⟨rfl, "1", hfirst⟩

end Parameters

end ContactCard
