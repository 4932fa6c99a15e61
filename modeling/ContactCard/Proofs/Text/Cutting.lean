import ContactCard.Proofs.Text.Fields
import Mathlib.Data.Set.Function

/-!
# Cut text put together again

Text ends inside an escape when it ends in an odd number of backslashes.  Cutting is undone by
putting the separator between the fields, and it finds the fields again that were put together
in this way, provided that no separator stands in them outside an escape and none but the last
ends inside one.  So texts correspond one to one to such lists of fields.
-/

namespace ContactCard.Text

namespace Fields

/-! ## Escapes in text -/

/-- Whether text ends inside an escape: in an odd number of backslashes. -/
def EndsInEscape (s : List Char) : Prop := (s.reverse.takeWhile (· = '\\')).length % 2 = 1

instance (s : List Char) : Decidable (EndsInEscape s) := inferInstanceAs (Decidable (_ = _))

/-- Behind text that does not end inside an escape only what follows counts. -/
theorem endsInEscape_append {p : List Char} (hp : ¬EndsInEscape p) (s : List Char) :
    EndsInEscape (p ++ s) ↔ EndsInEscape s := by
  rw [EndsInEscape] at hp
  rw [EndsInEscape, EndsInEscape, List.reverse_append, List.takeWhile_append]
  split
  · -- All of `s` is backslashes, and an even number of them stands before it.
    next hall =>
    rw [List.length_append, hall]
    omega
  · rfl

theorem endsInEscape_pair (c : Char) (s : List Char) :
    EndsInEscape ('\\' :: c :: s) ↔ EndsInEscape s := by
  have hpair : ¬EndsInEscape ['\\', c] := by
    by_cases hc : c = '\\' <;> simp [EndsInEscape, hc]
  exact endsInEscape_append hpair s

theorem endsInEscape_plain {c : Char} (hc : c ≠ '\\') (s : List Char) :
    EndsInEscape (c :: s) ↔ EndsInEscape s := by
  have hplain : ¬EndsInEscape [c] := by simp [EndsInEscape, hc]
  exact endsInEscape_append hplain s

/-- Whether the separator stands somewhere in the text outside an escape. -/
def HasBare (separator : Char) (s : List Char) : Prop :=
  ∃ before after, s = before ++ separator :: after ∧ ¬EndsInEscape before

variable {separator : Char}

theorem HasBare.mem {s : List Char} (hs : HasBare separator s) : separator ∈ s := by
  obtain ⟨before, after, rfl, -⟩ := hs
  simp

theorem hasBare_separator (s : List Char) : HasBare separator (separator :: s) :=
  ⟨[], s, rfl, by decide⟩

theorem hasBare_pair (hseparator : separator ≠ '\\') (c : Char) (s : List Char) :
    HasBare separator ('\\' :: c :: s) ↔ HasBare separator s := by
  constructor
  · rintro ⟨before, after, heq, hbefore⟩
    rcases before with _ | ⟨x, _ | ⟨y, before⟩⟩
    · exact absurd (List.cons.inj heq).1.symm hseparator
    · obtain ⟨rfl, -⟩ := List.cons.inj heq
      exact absurd (by decide) hbefore
    · obtain ⟨rfl, htail⟩ := List.cons.inj heq
      obtain ⟨rfl, rfl⟩ := List.cons.inj htail
      exact ⟨before, after, rfl, by rwa [endsInEscape_pair] at hbefore⟩
  · rintro ⟨before, after, rfl, hbefore⟩
    exact ⟨'\\' :: c :: before, after, rfl, by rwa [endsInEscape_pair]⟩

theorem hasBare_plain {c : Char} (hbackslash : c ≠ '\\') (hne : c ≠ separator) (s : List Char) :
    HasBare separator (c :: s) ↔ HasBare separator s := by
  constructor
  · rintro ⟨before, after, heq, hbefore⟩
    rcases before with _ | ⟨x, before⟩
    · exact absurd (List.cons.inj heq).1 hne
    · obtain ⟨rfl, rfl⟩ := List.cons.inj heq
      exact ⟨before, after, rfl, by rwa [endsInEscape_plain hbackslash] at hbefore⟩
  · rintro ⟨before, after, rfl, hbefore⟩
    exact ⟨c :: before, after, rfl, by rwa [endsInEscape_plain hbackslash]⟩

theorem Shielded.append {p s : List Char} (hp : Shielded separator p) (hs : Shielded separator s) :
    Shielded separator (p ++ s) := by
  induction hp with
  | nil => exact hs
  | pair c rest ih => exact .pair c ih
  | plain hbackslash hne rest ih => exact .plain hbackslash hne ih

/-- Behind shielded text only what follows counts. -/
theorem Shielded.hasBare_append (hseparator : separator ≠ '\\') {p : List Char}
    (hp : Shielded separator p) (s : List Char) :
    HasBare separator (p ++ s) ↔ HasBare separator s := by
  induction hp with
  | nil => rfl
  | pair c rest ih => rw [List.cons_append, List.cons_append, hasBare_pair hseparator, ih]
  | plain hbackslash hne rest ih => rw [List.cons_append, hasBare_plain hbackslash hne, ih]

theorem Shielded.not_hasBare (hseparator : separator ≠ '\\') {s : List Char}
    (hs : Shielded separator s) : ¬HasBare separator s := by
  rw [← List.append_nil s, hs.hasBare_append hseparator]
  exact fun hbare => absurd hbare.mem (by simp)

theorem Shielded.not_endsInEscape {s : List Char} (hs : Shielded separator s) :
    ¬EndsInEscape s := by
  induction hs with
  | nil => decide
  | pair c rest ih => rwa [endsInEscape_pair]
  | plain hbackslash hne rest ih => rwa [endsInEscape_plain hbackslash]

/-- Text without a separator outside an escape is shielded but for a last backslash. -/
theorem shielded_or_of_not_hasBare (hseparator : separator ≠ '\\') {s : List Char}
    (hs : ¬HasBare separator s) :
    Shielded separator s ∨ ∃ t, Shielded separator t ∧ s = t ++ ['\\'] := by
  fun_induction cut separator s with
  | case1 => exact .inl .nil
  | case2 c hc => exact absurd (hc.2 ▸ hasBare_separator []) hs
  | case3 c hc =>
      by_cases hbackslash : c = '\\'
      · exact .inr ⟨[], .nil, by rw [hbackslash]; rfl⟩
      · exact .inl (.plain hbackslash (fun h => hc ⟨hbackslash, h⟩) .nil)
  | case4 d rest ih =>
      rw [hasBare_pair hseparator] at hs
      rcases ih hs with hrest | ⟨t, ht, rfl⟩
      · exact .inl (.pair d hrest)
      · exact .inr ⟨'\\' :: d :: t, .pair d ht, rfl⟩
  | case5 d rest => exact absurd (hasBare_separator (d :: rest)) hs
  | case6 c d rest hbackslash hne ih =>
      rw [hasBare_plain hbackslash hne] at hs
      rcases ih hs with hrest | ⟨t, ht, heq⟩
      · exact .inl (.plain hbackslash hne hrest)
      · exact .inr ⟨c :: t, .plain hbackslash hne ht, by rw [heq]; rfl⟩

theorem shielded_iff (hseparator : separator ≠ '\\') (s : List Char) :
    Shielded separator s ↔ ¬HasBare separator s ∧ ¬EndsInEscape s := by
  constructor
  · exact fun hs => ⟨hs.not_hasBare hseparator, hs.not_endsInEscape⟩
  · rintro ⟨hbare, hescape⟩
    rcases shielded_or_of_not_hasBare hseparator hbare with hs | ⟨t, ht, rfl⟩
    · exact hs
    · rw [endsInEscape_append ht.not_endsInEscape] at hescape
      exact absurd (by decide) hescape

/-! ## Fields -/

/-- Fields that can be told apart again: there are some, no separator stands in them outside an
escape, and none but the last ends inside one. -/
structure AreApart (separator : Char) (fields : List (List Char)) : Prop where
  ne_nil : fields ≠ []
  not_hasBare : ∀ field ∈ fields, ¬HasBare separator field
  not_endsInEscape : ∀ field ∈ fields.dropLast, ¬EndsInEscape field

theorem areApart_singleton {field : List Char} (hfield : ¬HasBare separator field) :
    AreApart separator [field] where
  ne_nil := by simp
  not_hasBare := by simpa using hfield
  not_endsInEscape := by simp

theorem areApart_cons (hseparator : separator ≠ '\\') {field : List Char}
    {rest : List (List Char)} (hrest : rest ≠ []) :
    AreApart separator (field :: rest) ↔ Shielded separator field ∧ AreApart separator rest := by
  rw [shielded_iff hseparator]
  constructor
  · rintro ⟨-, hbare, hescape⟩
    rw [List.dropLast_cons_of_ne_nil hrest] at hescape
    obtain ⟨hfield, hothers⟩ := List.forall_mem_cons.1 hbare
    obtain ⟨hclosed, hclosedOthers⟩ := List.forall_mem_cons.1 hescape
    exact ⟨⟨hfield, hclosed⟩, hrest, hothers, hclosedOthers⟩
  · rintro ⟨⟨hfield, hclosed⟩, -, hothers, hclosedOthers⟩
    refine ⟨by simp, List.forall_mem_cons.2 ⟨hfield, hothers⟩, ?_⟩
    rw [List.dropLast_cons_of_ne_nil hrest]
    exact List.forall_mem_cons.2 ⟨hclosed, hclosedOthers⟩

/-- Shielded text may stand in front of the first field. -/
theorem AreApart.extend (hseparator : separator ≠ '\\') {p : List Char}
    (hp : Shielded separator p) {fields : List (List Char)} (hfields : AreApart separator fields) :
    AreApart separator (Text.extend p fields) := by
  obtain ⟨field, rest, rfl⟩ := List.exists_cons_of_ne_nil hfields.ne_nil
  by_cases hrest : rest = []
  · subst hrest
    refine areApart_singleton ?_
    rw [hp.hasBare_append hseparator]
    exact hfields.not_hasBare field List.mem_cons_self
  · rw [areApart_cons hseparator hrest] at hfields
    rw [Text.extend, areApart_cons hseparator hrest]
    exact ⟨hp.append hfields.1, hfields.2⟩

/-- Cutting leaves fields that can be told apart again. -/
theorem areApart_cut (hseparator : separator ≠ '\\') (s : List Char) :
    AreApart separator (cut separator s) := by
  have hempty : ¬HasBare separator [] := fun hbare => absurd hbare.mem (by simp)
  fun_induction cut separator s with
  | case1 => exact areApart_singleton hempty
  | case2 c hc => exact (areApart_cons hseparator (by simp)).2 ⟨.nil, areApart_singleton hempty⟩
  | case3 c hc =>
      refine areApart_singleton fun hbare => hc ?_
      obtain rfl := List.mem_singleton.1 hbare.mem
      exact ⟨hseparator, rfl⟩
  | case4 d rest ih => exact ih.extend hseparator (.pair d .nil)
  | case5 d rest hne ih => exact (areApart_cons hseparator (cut_ne_nil _ _)).2 ⟨.nil, ih⟩
  | case6 c d rest hbackslash hne ih => exact ih.extend hseparator (.plain hbackslash hne .nil)

theorem glue_extend (p : List Char) (fields : List (List Char)) :
    glue separator (Text.extend p fields) = p ++ glue separator fields := by
  rcases fields with _ | ⟨field, _ | ⟨next, rest⟩⟩ <;>
    simp [Text.extend, glue, List.intercalate_cons_cons]

/-- Cutting loses nothing but the separators between the fields. -/
theorem glue_cut (s : List Char) : glue separator (cut separator s) = s := by
  fun_induction cut separator s with
  | case1 => rfl
  | case2 c hc => simp [glue, List.intercalate_cons_cons, hc.2]
  | case3 c hc => simp [glue]
  | case4 d rest ih => rw [glue_extend, ih]; rfl
  | case5 d rest hne ih =>
      obtain ⟨field, others, hfields⟩ :=
        List.exists_cons_of_ne_nil (cut_ne_nil separator (d :: rest))
      rw [hfields] at ih ⊢
      rw [← ih]
      simp [glue, List.intercalate_cons_cons]
  | case6 c d rest hbackslash hne ih => rw [glue_extend, ih]; rfl

theorem cut_of_not_hasBare (hseparator : separator ≠ '\\') {field : List Char}
    (hfield : ¬HasBare separator field) : cut separator field = [field] := by
  rcases shielded_or_of_not_hasBare hseparator hfield with hshielded | ⟨t, ht, rfl⟩
  · exact cut_of_shielded hshielded
  · simp [cut_append ht, cut, extend]

/-- Fields that can be told apart are found again between the separators. -/
theorem AreApart.cut_glue (hseparator : separator ≠ '\\') {fields : List (List Char)}
    (hfields : AreApart separator fields) : cut separator (glue separator fields) = fields := by
  induction fields with
  | nil => exact absurd rfl hfields.ne_nil
  | cons field rest ih =>
      by_cases hrest : rest = []
      · subst hrest
        simpa [glue] using
          cut_of_not_hasBare hseparator (hfields.not_hasBare field List.mem_cons_self)
      · obtain ⟨hfield, hothers⟩ := (areApart_cons hseparator hrest).1 hfields
        rw [cut_glue_cons hseparator hfield hrest, ih hothers]

end Fields

/-! ## Strings -/

theorem map_toList_splitFields (separator : Char) (s : String) :
    (splitFields separator false false s).map String.toList = Fields.cut separator s.toList := by
  simp [splitFields, Fields.split, Function.comp_def]

theorem toList_intercalate_singleton (separator : Char) (fields : List String) :
    ((String.singleton separator).intercalate fields).toList =
      Fields.glue separator (fields.map String.toList) := by
  rw [String.toList_intercalate, String.toList_singleton, Fields.glue]

/-- Text that is cut without reading its escapes is given back by its fields with the separator
between them, and fields that can be told apart are found again in the text made of them.  So
such cutting is a bijection from all texts onto the lists of fields that can be told apart. -/
theorem splitFields_bijOn {separator : Char} (hseparator : separator ≠ '\\') :
    (∀ s, (String.singleton separator).intercalate (splitFields separator false false s) = s ∧
      Fields.AreApart separator ((splitFields separator false false s).map String.toList)) ∧
    (∀ fields : List String, Fields.AreApart separator (fields.map String.toList) →
      splitFields separator false false ((String.singleton separator).intercalate fields) =
        fields) ∧
    Set.BijOn (splitFields separator false false) Set.univ
      {fields | Fields.AreApart separator (fields.map String.toList)} := by
  have hglued : ∀ s,
      (String.singleton separator).intercalate (splitFields separator false false s) = s := by
    intro s
    rw [← String.toList_inj, toList_intercalate_singleton, map_toList_splitFields,
      Fields.glue_cut]
  have hapart : ∀ s,
      Fields.AreApart separator ((splitFields separator false false s).map String.toList) := by
    intro s
    rw [map_toList_splitFields]
    exact Fields.areApart_cut hseparator s.toList
  have hsplit : ∀ fields : List String, Fields.AreApart separator (fields.map String.toList) →
      splitFields separator false false ((String.singleton separator).intercalate fields) =
        fields := by
    intro fields hfields
    apply List.map_injective_iff.2 fun _ _ => String.toList_inj.1
    rw [map_toList_splitFields, toList_intercalate_singleton, hfields.cut_glue hseparator]
  refine ⟨fun s => ⟨hglued s, hapart s⟩, hsplit, fun s _ => hapart s, ?_, ?_⟩
  · exact (Function.LeftInverse.injective hglued).injOn
  · exact fun fields hfields => ⟨_, Set.mem_univ _, hsplit fields hfields⟩

/-- Escaped separators stay in their fields, an escaped backslash shields nothing, and the last
field may end in a lone one. -/
theorem splitFields_bijOn_comma :
    ',' ≠ '\\' ∧
    splitFields ',' false false "a\\,b\\\\,,c\\" = ["a\\,b\\\\", "", "c\\"] ∧
    (String.singleton ',').intercalate ["a\\,b\\\\", "", "c\\"] = "a\\,b\\\\,,c\\" ∧
    Fields.AreApart ',' (["a\\,b\\\\", "", "c\\"].map String.toList) := by
  have hcomma : ',' ≠ '\\' := by decide
  have hsplit : splitFields ',' false false "a\\,b\\\\,,c\\" = ["a\\,b\\\\", "", "c\\"] := by
    decide
  obtain ⟨hglued, hapart⟩ := (splitFields_bijOn hcomma).1 "a\\,b\\\\,,c\\"
  rw [hsplit] at hglued hapart
  exact ⟨hcomma, hsplit, hglued, hapart⟩

end ContactCard.Text
