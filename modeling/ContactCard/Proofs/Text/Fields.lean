import ContactCard.Proofs.Text.Escapes
import ContactCard.Text.Fields
import Mathlib.Data.List.DropRight

/-!
# Joined values split back

A field is shielded when every backslash in it has a partner and no separator
stands outside such a pair.  Shielded fields are what cutting finds again
between separators, and escaped values are shielded, so splitting undoes
joining up to the spelling of line breaks.  The one list that no text stands
for is the empty one.
-/

namespace ContactCard.Text.Fields

/-! ## Pieces -/

theorem extend_append (first second : List Char) (pieces : List (List Char)) :
    extend (first ++ second) pieces = extend first (extend second pieces) := by
  cases pieces <;> simp [extend]

theorem extend_empty {pieces : List (List Char)} (hpieces : pieces ≠ []) :
    extend [] pieces = pieces := by
  cases pieces with
  | nil => exact absurd rfl hpieces
  | cons first rest => rfl

theorem extend_ne_nil (piece : List Char) (pieces : List (List Char)) :
    extend piece pieces ≠ [] := by
  cases pieces <;> simp [extend]

/-! ## Cutting -/

@[simp]
theorem cut_nil (separator : Char) : cut separator [] = [[]] := rfl

@[simp]
theorem cut_pair (separator c : Char) (s : List Char) :
    cut separator ('\\' :: c :: s) = extend ['\\', c] (cut separator s) := by
  simp [cut]

theorem cut_separator {separator : Char} (hseparator : separator ≠ '\\') (s : List Char) :
    cut separator (separator :: s) = [] :: cut separator s := by
  cases s <;> simp [cut, hseparator]

theorem cut_plain {separator c : Char} (hbackslash : c ≠ '\\') (hseparator : c ≠ separator)
    (s : List Char) : cut separator (c :: s) = extend [c] (cut separator s) := by
  cases s <;> simp [cut, hbackslash, hseparator, extend]

theorem cut_ne_nil (separator : Char) (s : List Char) : cut separator s ≠ [] := by
  fun_induction cut separator s with
  | case1 => simp
  | case2 => simp
  | case3 => simp
  | case4 => exact extend_ne_nil _ _
  | case5 => simp
  | case6 => exact extend_ne_nil _ _

/-- A field holds only what stands in the text. -/
theorem subset_of_mem_cut {separator : Char} {s field : List Char}
    (hfield : field ∈ cut separator s) : field ⊆ s := by
  have hextend : ∀ {piece rest : List Char} {pieces : List (List Char)},
      (∀ first ∈ pieces, first ⊆ rest) → ∀ first ∈ extend piece pieces, first ⊆ piece ++ rest := by
    intro piece rest pieces hpieces first hfirst
    cases pieces with
    | nil =>
        obtain rfl := List.mem_singleton.1 hfirst
        exact List.subset_append_left _ _
    | cons next pieces =>
        rcases List.mem_cons.1 hfirst with rfl | hfirst
        · exact List.append_subset.2 ⟨List.subset_append_left _ _,
            List.subset_append_of_subset_right _ (hpieces next List.mem_cons_self)⟩
        · exact List.subset_append_of_subset_right _
            (hpieces first (List.mem_cons_of_mem _ hfirst))
  fun_induction cut separator s generalizing field with
  | case1 => simp_all
  | case2 => simp_all
  | case3 => simp_all
  | case4 d rest ih => exact hextend (fun _ => ih) field hfield
  | case5 d rest hne ih =>
      rcases List.mem_cons.1 hfield with rfl | hfield
      · simp
      · exact List.subset_cons_of_subset _ (ih hfield)
  | case6 c d rest hbackslash hseparator ih => exact hextend (fun _ => ih) field hfield

/-- Text in which every backslash has a partner and no separator stands outside
such a pair. -/
inductive Shielded (separator : Char) : List Char → Prop
  | nil : Shielded separator []
  | pair (c : Char) {s : List Char} (rest : Shielded separator s) :
    Shielded separator ('\\' :: c :: s)
  | plain {c : Char} {s : List Char} (hbackslash : c ≠ '\\') (hseparator : c ≠ separator)
    (rest : Shielded separator s) : Shielded separator (c :: s)

/-- Shielded text goes into the first field as a whole. -/
theorem cut_append {separator : Char} {field : List Char} (hfield : Shielded separator field)
    (s : List Char) : cut separator (field ++ s) = extend field (cut separator s) := by
  induction hfield with
  | nil => rw [List.nil_append, extend_empty (cut_ne_nil separator s)]
  | pair c rest ih =>
      rw [List.cons_append, List.cons_append, cut_pair, ih, ← extend_append]
      rfl
  | plain hbackslash hseparator rest ih =>
      rw [List.cons_append, cut_plain hbackslash hseparator, ih, ← extend_append]
      rfl

theorem cut_of_shielded {separator : Char} {field : List Char}
    (hfield : Shielded separator field) : cut separator field = [field] := by
  simpa [extend] using cut_append hfield []

/-- A shielded field in front of others is cut off as it is. -/
theorem cut_glue_cons {separator : Char} (hseparator : separator ≠ '\\') {field : List Char}
    (hfield : Shielded separator field) {rest : List (List Char)} (hrest : rest ≠ []) :
    cut separator (glue separator (field :: rest)) =
      field :: cut separator (glue separator rest) := by
  obtain ⟨next, others, rfl⟩ := List.exists_cons_of_ne_nil hrest
  have hglue : glue separator (field :: next :: others) =
      field ++ separator :: glue separator (next :: others) := by
    simp [glue, List.intercalate_cons_cons]
  rw [hglue, cut_append hfield, cut_separator hseparator]
  simp [extend]

/-- Shielded fields are found again between the separators. -/
theorem cut_glue {separator : Char} (hseparator : separator ≠ '\\') {fields : List (List Char)}
    (hfields : ∀ field ∈ fields, Shielded separator field) (hne : fields ≠ []) :
    cut separator (glue separator fields) = fields := by
  induction fields with
  | nil => exact absurd rfl hne
  | cons field rest ih =>
      obtain ⟨hfield, hothers⟩ := List.forall_mem_cons.1 hfields
      by_cases hrest : rest = []
      · subst hrest
        simpa [glue] using cut_of_shielded hfield
      · rw [cut_glue_cons hseparator hfield hrest, ih hothers hrest]

/-! ## Escaped values -/

/-- The pass shields every one of its separators. -/
theorem shielded_passAll {separators : List Char} {separator : Char}
    (hseparator : separator ∈ separators) (s : List Char) :
    Shielded separator (Escape.passAll separators s) := by
  fun_induction Escape.passAll separators s with
  | case1 rest ih => exact .pair 'n' ih
  | case2 c rest hpair ih =>
      by_cases hbreak : c = '\r' ∨ c = '\n'
      · rw [if_pos hbreak]
        exact .pair 'n' ih
      · rw [if_neg hbreak]
        by_cases hshielded : c = '\\' ∨ c ∈ separators
        · rw [if_pos hshielded]
          exact .pair c ih
        · rw [if_neg hshielded]
          obtain ⟨hbackslash, hmem⟩ := not_or.1 hshielded
          exact .plain hbackslash (fun h => hmem (h ▸ hseparator)) ih
  | case3 => exact .nil

theorem shielded_encode {separator : Char} (hseparator : Escape.IsPlainSeparator separator)
    (s : List Char) : Shielded separator (Escape.encode separator s) := by
  rw [Escape.encode_eq_passAll hseparator]
  exact shielded_passAll (List.mem_singleton_self separator) s

theorem cut_join {separator : Char} (hseparator : Escape.IsPlainSeparator separator)
    {values : List (List Char)} (hne : values ≠ []) :
    cut separator (join separator values) = values.map (Escape.encode separator) := by
  apply cut_glue hseparator.ne_backslash
  · intro field hfield
    obtain ⟨value, -, rfl⟩ := List.mem_map.1 hfield
    exact shielded_encode hseparator value
  · simpa using hne

/-- The values come back with their line breaks normalised. -/
theorem split_join {separator : Char} (hseparator : Escape.IsSeparator separator)
    {values : List (List Char)} (hne : values ≠ []) (trimmed : Bool) :
    split separator true trimmed (join separator values) =
      values.map fun value =>
        if trimmed then stripChars (normalizeBreaks value) else normalizeBreaks value := by
  rw [split, cut_join hseparator.toIsPlainSeparator hne, List.map_map]
  apply List.map_congr_left
  intro value _
  simp [Escape.decode_encode hseparator]

end Fields

/-! ## Strings -/

theorem isSeparator_of_not_mem {separator : Char}
    (hseparator : separator ∉ ['\\', 'n', 'N', '\r', '\n']) : Escape.IsSeparator separator := by
  simp only [List.mem_cons, List.not_mem_nil, or_false, not_or] at hseparator
  obtain ⟨hbackslash, hn, hN, hcr, hlf⟩ := hseparator
  exact { ne_backslash := hbackslash, ne_cr := hcr, ne_lf := hlf, ne_n := hn, ne_N := hN }

theorem splitFields_joinFields_eq {separator : Char} (hseparator : Escape.IsSeparator separator)
    {values : List String} (hne : values ≠ []) (trimmed : Bool) :
    splitFields separator true trimmed (joinFields separator values) =
      values.map fun value => if trimmed then strip (normalize value) else normalize value := by
  have hchars : values.map String.toList ≠ [] := by simpa using hne
  rw [splitFields, joinFields, String.toList_ofList, Fields.split_join hseparator hchars]
  simp only [List.map_map]
  apply List.map_congr_left
  intro value _
  cases trimmed <;> simp [strip, normalize]

/-- No values are written as the empty text, which is one empty field. -/
theorem splitFields_joinFields_nil (separator : Char) (trimmed : Bool) :
    splitFields separator true trimmed (joinFields separator []) = [""] := by
  cases trimmed <;> rfl

theorem normalize_eq_self_iff (s : String) : normalize s = s ↔ '\r' ∉ s.toList := by
  rw [← normalizeBreaks_eq_self_iff, ← String.toList_inj, toList_normalize]

theorem mem_of_mem_stripChars {c : Char} {s : List Char} (hc : c ∈ stripChars s) : c ∈ s := by
  rw [stripChars, stripWith, List.mem_reverse] at hc
  have hfront := (List.dropWhile_sublist _).subset hc
  rw [List.mem_reverse] at hfront
  exact (List.dropWhile_sublist _).subset hfront

theorem stripWith_stripWith (drop : Char → Bool) (s : List Char) :
    stripWith drop (stripWith drop s) = stripWith drop s := by
  have hfront : (stripWith drop s).dropWhile drop = stripWith drop s := by
    rw [List.dropWhile_eq_self_iff]
    intro hlength
    have hstart : stripWith drop s <+: s.dropWhile drop :=
      List.rdropWhile_prefix drop _
    rw [hstart.getElem hlength]
    exact List.dropWhile_get_zero_not drop s _
  calc stripWith drop (stripWith drop s)
      = List.rdropWhile drop ((stripWith drop s).dropWhile drop) := rfl
    _ = List.rdropWhile drop (List.rdropWhile drop (s.dropWhile drop)) := by rw [hfront]; rfl
    _ = stripWith drop s := List.rdropWhile_idempotent drop _

@[simp]
theorem strip_strip (s : String) : strip (strip s) = strip s := by
  rw [← String.toList_inj]
  simp only [toList_strip]
  exact stripWith_stripWith isBlank s.toList

/-- Text that is stripped after it was normalised comes out as it was exactly
when both steps leave it alone. -/
theorem strip_normalize_eq_self_iff (s : String) :
    strip (normalize s) = s ↔ '\r' ∉ s.toList ∧ strip s = s := by
  constructor
  · intro h
    have hcr : '\r' ∉ s.toList := by
      intro hmem
      rw [← h, toList_strip, toList_normalize] at hmem
      exact cr_not_mem_normalizeBreaks s.toList (mem_of_mem_stripChars hmem)
    rw [(normalize_eq_self_iff s).2 hcr] at h
    exact ⟨hcr, h⟩
  · rintro ⟨hcr, hstrip⟩
    rw [(normalize_eq_self_iff s).2 hcr, hstrip]

/-- Joined values split back into themselves, with their line breaks normalised
and, on request, stripped.  They are the same values exactly when there are
some, no value holds a CR and none has blanks around it. -/
theorem splitFields_joinFields {separator : Char}
    (hseparator : separator ∉ ['\\', 'n', 'N', '\r', '\n']) (values : List String) :
    (values ≠ [] →
      splitFields separator true false (joinFields separator values) = values.map normalize ∧
      splitFields separator true true (joinFields separator values) =
        values.map fun value => strip (normalize value)) ∧
    (splitFields separator true true (joinFields separator values) = values ↔
      values ≠ [] ∧ (∀ value ∈ values, '\r' ∉ value.toList) ∧
        ∀ value ∈ values, strip value = value) := by
  have hsep := isSeparator_of_not_mem hseparator
  have htrimmed (hne : values ≠ []) :
      splitFields separator true true (joinFields separator values) =
        values.map fun value => strip (normalize value) := by
    simpa using splitFields_joinFields_eq hsep hne true
  refine ⟨fun hne => ⟨?_, htrimmed hne⟩, ?_⟩
  · simpa using splitFields_joinFields_eq hsep hne false
  by_cases hne : values = []
  · subst hne
    simp [splitFields_joinFields_nil]
  · have hfixed : (values.map fun value => strip (normalize value)) = values ↔
        ∀ value ∈ values, strip (normalize value) = value := by
      simpa using (List.map_inj_left :
        (values.map fun value => strip (normalize value)) = values.map id ↔ _)
    rw [htrimmed hne, hfixed]
    constructor
    · intro h
      have hboth value (hvalue : value ∈ values) :=
        (strip_normalize_eq_self_iff value).1 (h value hvalue)
      exact ⟨hne, fun value hvalue => (hboth value hvalue).1,
        fun value hvalue => (hboth value hvalue).2⟩
    · rintro ⟨-, hcr, hstrip⟩ value hvalue
      exact (strip_normalize_eq_self_iff value).2 ⟨hcr value hvalue, hstrip value hvalue⟩

/-- A value that ends in a backslash and one that holds the separator and a CR LF
pair, between semicolons. -/
theorem splitFields_joinFields_semicolon :
    ';' ∉ ['\\', 'n', 'N', '\r', '\n'] ∧
    splitFields ';' true false (joinFields ';' ["a\\", " b;\r\nc"]) = ["a\\", " b;\nc"] ∧
    splitFields ';' true true (joinFields ';' ["a\\", " b;\r\nc"]) = ["a\\", "b;\nc"] := by
  have hseparator : ';' ∉ ['\\', 'n', 'N', '\r', '\n'] := by decide
  obtain ⟨hsplit, htrimmed⟩ :=
    (splitFields_joinFields hseparator ["a\\", " b;\r\nc"]).1 (by simp)
  exact ⟨hseparator, hsplit.trans (by decide), htrimmed.trans (by decide)⟩

end ContactCard.Text
