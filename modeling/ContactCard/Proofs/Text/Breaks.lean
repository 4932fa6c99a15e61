import ContactCard.Text.LineBreak

/-!
# Line breaks in one pass

Line breaks are replaced in three passes: pairs first, then what is left of CR
and of LF.  A mark that survives the last two passes makes them equal to one
pass from left to right.  What they leave stands on one line as soon as the
mark does.
-/

namespace ContactCard.Text

/-! ## Text on one line -/

/-- Text that holds neither CR nor LF. -/
def IsUnbroken (s : List Char) : Prop := ∀ c ∈ s, c ≠ '\r' ∧ c ≠ '\n'

instance (s : List Char) : Decidable (IsUnbroken s) :=
  List.decidableBAll (fun c => c ≠ '\r' ∧ c ≠ '\n') s

@[simp]
theorem isUnbroken_nil : IsUnbroken [] := by
  simp [IsUnbroken]

@[simp]
theorem isUnbroken_cons (c : Char) (s : List Char) :
    IsUnbroken (c :: s) ↔ (c ≠ '\r' ∧ c ≠ '\n') ∧ IsUnbroken s := by
  simp [IsUnbroken]

@[simp]
theorem isUnbroken_append (s t : List Char) :
    IsUnbroken (s ++ t) ↔ IsUnbroken s ∧ IsUnbroken t :=
  List.forall_mem_append

theorem IsUnbroken.subset {s t : List Char} (ht : IsUnbroken t) (hsubset : s ⊆ t) :
    IsUnbroken s :=
  fun c hc => ht c (hsubset hc)

theorem isUnbroken_flatMap {α : Type} {f : α → List Char} {xs : List α} :
    IsUnbroken (xs.flatMap f) ↔ ∀ x ∈ xs, IsUnbroken (f x) := by
  simp only [IsUnbroken, List.mem_flatMap]
  constructor
  · intro h x hx c hc
    exact h c ⟨x, hx, hc⟩
  · rintro h c ⟨x, hx, hc⟩
    exact h x hx c hc

/-- Pieces with a separator between them stand on one line when the pieces and
the separator do. -/
theorem isUnbroken_intercalate {separator : List Char} {pieces : List (List Char)}
    (hseparator : IsUnbroken separator) (hpieces : ∀ piece ∈ pieces, IsUnbroken piece) :
    IsUnbroken (separator.intercalate pieces) := by
  induction pieces with
  | nil => simp
  | cons piece rest ih =>
      have hpiece : IsUnbroken piece := hpieces piece List.mem_cons_self
      have hrest : IsUnbroken (separator.intercalate rest) :=
        ih fun other hother => hpieces other (List.mem_cons_of_mem _ hother)
      cases rest with
      | nil => simpa using hpiece
      | cons next rest =>
          rw [List.intercalate_cons_cons]
          simp [hpiece, hseparator, hrest]

/-! ## What the passes leave -/

theorem isUnbroken_replaceChar {c : Char} {mark s : List Char} (hmark : IsUnbroken mark)
    (hs : ∀ x ∈ s, x = c ∨ x ≠ '\r' ∧ x ≠ '\n') : IsUnbroken (replaceChar c mark s) := by
  rw [replaceChar, isUnbroken_flatMap]
  intro x hx
  by_cases hxc : x = c
  · simpa [hxc] using hmark
  · simpa [hxc] using hs x hx

/-- Nothing is left of a character whose mark does not hold it. -/
theorem not_mem_replaceChar {c d : Char} {mark s : List Char} (hmark : d ∉ mark)
    (hs : d = c ∨ d ∉ s) : d ∉ replaceChar c mark s := by
  intro hmem
  obtain ⟨x, hx, hd⟩ := List.mem_flatMap.1 hmem
  by_cases hxc : x = c
  · exact hmark (by simpa [hxc] using hd)
  · have hdx : d = x := by simpa [hxc] using hd
    rcases hs with hdc | hds
    · exact hxc (hdx.symm.trans hdc)
    · exact hds (hdx ▸ hx)

/-- No line break outlives the three passes. -/
theorem isUnbroken_replaceBreaks {mark : List Char} (hmark : IsUnbroken mark) (s : List Char) :
    IsUnbroken (replaceBreaks mark s) := by
  have hcr : '\r' ∉ replaceChar '\r' mark (replacePairs mark s) :=
    not_mem_replaceChar (fun h => (hmark _ h).1 rfl) (.inl rfl)
  refine isUnbroken_replaceChar hmark fun x hx => ?_
  by_cases hlf : x = '\n'
  · exact .inl hlf
  · exact .inr ⟨fun h => hcr (h ▸ hx), hlf⟩

/-! ## What the passes add -/

theorem replaceChar_of_not_mem {c : Char} {s : List Char} (hc : c ∉ s) (mark : List Char) :
    replaceChar c mark s = s := by
  induction s with
  | nil => rfl
  | cons x rest ih =>
      obtain ⟨hx, hrest⟩ : c ≠ x ∧ c ∉ rest := by simpa using hc
      rw [replaceChar_cons, if_neg (Ne.symm hx), ih hrest, List.singleton_append]

theorem replacePairs_of_cr_not_mem {s : List Char} (hs : '\r' ∉ s) (mark : List Char) :
    replacePairs mark s = s := by
  fun_induction replacePairs mark s with
  | case1 rest ih => exact absurd List.mem_cons_self hs
  | case2 c rest hpair ih => rw [ih fun h => hs (List.mem_cons_of_mem c h)]
  | case3 => rfl

/-- Text on one line is left as it is. -/
theorem replaceBreaks_of_isUnbroken {s : List Char} (hs : IsUnbroken s) (mark : List Char) :
    replaceBreaks mark s = s := by
  have hcr : '\r' ∉ s := fun h => (hs _ h).1 rfl
  have hlf : '\n' ∉ s := fun h => (hs _ h).2 rfl
  rw [replaceBreaks, replacePairs_of_cr_not_mem hcr, replaceChar_of_not_mem hcr,
    replaceChar_of_not_mem hlf]

/-- A pass adds nothing but its mark, and that only where there is something to replace. -/
theorem mem_replaceChar {c x : Char} {mark s : List Char} (hx : x ∈ replaceChar c mark s) :
    x ∈ s ∨ c ∈ s ∧ x ∈ mark := by
  obtain ⟨y, hy, hmem⟩ := List.mem_flatMap.1 hx
  by_cases hyc : y = c
  · exact .inr ⟨hyc ▸ hy, by simpa [hyc] using hmem⟩
  · have hxy : x = y := by simpa [hyc] using hmem
    exact .inl (hxy ▸ hy)

theorem mem_replacePairs {x : Char} {mark s : List Char} (hx : x ∈ replacePairs mark s) :
    x ∈ s ∨ x ∈ mark := by
  fun_induction replacePairs mark s with
  | case1 rest ih =>
      rcases List.mem_append.1 hx with hmark | hrest
      · exact .inr hmark
      · exact (ih hrest).imp_left fun h => List.mem_cons_of_mem _ (List.mem_cons_of_mem _ h)
  | case2 c rest hpair ih =>
      rcases List.mem_cons.1 hx with rfl | hrest
      · exact .inl List.mem_cons_self
      · exact (ih hrest).imp_left fun h => List.mem_cons_of_mem _ h
  | case3 => exact .inl hx

theorem mem_replaceBreaks {x : Char} {mark s : List Char} (hx : x ∈ replaceBreaks mark s) :
    x ∈ s ∨ x ∈ mark := by
  rcases mem_replaceChar hx with hmem | ⟨-, hmark⟩
  · rcases mem_replaceChar hmem with hmem | ⟨-, hmark⟩
    · exact mem_replacePairs hmem
    · exact .inr hmark
  · exact .inr hmark

/-! A mark of two characters takes one place more than the character it stands for, and
as many as a pair. -/

theorem length_replaceChar {mark : List Char} (hmark : mark.length = 2) (c : Char)
    (s : List Char) : (replaceChar c mark s).length = s.length + s.count c := by
  induction s with
  | nil => rfl
  | cons x rest ih =>
      rw [replaceChar_cons, List.length_append, ih, List.length_cons, List.count_cons]
      by_cases hx : x = c
      · simp only [hx, if_true, hmark, beq_self_eq_true]
        omega
      · simp only [hx, if_false, List.length_singleton, beq_iff_eq]
        omega

theorem length_replacePairs {mark : List Char} (hmark : mark.length = 2) (s : List Char) :
    (replacePairs mark s).length = s.length := by
  fun_induction replacePairs mark s with
  | case1 rest ih =>
      rw [List.length_append, hmark, ih, List.length_cons, List.length_cons]
      omega
  | case2 c rest hpair ih => rw [List.length_cons, List.length_cons, ih]
  | case3 => rfl

theorem le_length_replaceBreaks {mark : List Char} (hmark : mark.length = 2) (s : List Char) :
    s.length ≤ (replaceBreaks mark s).length := by
  rw [replaceBreaks, length_replaceChar hmark, length_replaceChar hmark,
    length_replacePairs hmark]
  omega

/-- A pass that adds nothing finds nothing. -/
theorem not_mem_of_length_replaceChar_le {c : Char} {mark s : List Char}
    (hmark : mark.length = 2) (hlength : (replaceChar c mark s).length ≤ s.length) : c ∉ s := by
  rw [length_replaceChar hmark] at hlength
  exact List.count_eq_zero.1 (by omega)

/-! ## One pass -/

/-- A mark that the passes for CR and for LF leave as it is. -/
structure IsMark (mark : List Char) : Prop where
  cr : replaceChar '\r' mark mark = mark
  lf : replaceChar '\n' mark mark = mark

theorem isMark_lf : IsMark ['\n'] := ⟨rfl, rfl⟩

/-- Puts `mark` in place of every line break, from left to right. -/
def passBreaks (mark : List Char) : List Char → List Char
  | '\r' :: '\n' :: rest => mark ++ passBreaks mark rest
  | c :: rest => (if c = '\r' ∨ c = '\n' then mark else [c]) ++ passBreaks mark rest
  | [] => []

/-- The three passes are one pass. -/
theorem replaceBreaks_eq_passBreaks {mark : List Char} (hmark : IsMark mark) (s : List Char) :
    replaceBreaks mark s = passBreaks mark s := by
  unfold replaceBreaks
  fun_induction passBreaks mark s with
  | case1 rest ih => simp [replacePairs, hmark.cr, hmark.lf, ih]
  | case2 c rest hpair ih =>
      rw [replacePairs]
      · by_cases hcr : c = '\r'
        · simp [hcr, hmark.lf, ih]
        · by_cases hlf : c = '\n' <;> simp [hcr, hlf, ih]
      · exact hpair
  | case3 => rfl

/-- Normalised text holds no CR. -/
theorem cr_not_mem_normalizeBreaks (s : List Char) : '\r' ∉ normalizeBreaks s :=
  not_mem_replaceChar (by decide) (.inr (not_mem_replaceChar (by decide) (.inl rfl)))

/-- Without a CR there is nothing to normalise. -/
theorem normalizeBreaks_of_cr_not_mem {s : List Char} (hs : '\r' ∉ s) :
    normalizeBreaks s = s := by
  rw [normalizeBreaks, replaceBreaks_eq_passBreaks isMark_lf]
  induction s with
  | nil => rfl
  | cons c rest ih =>
      have hc : c ≠ '\r' := fun h => hs (h ▸ List.mem_cons_self)
      have hrest := ih fun h => hs (List.mem_cons_of_mem _ h)
      rw [passBreaks]
      · by_cases hlf : c = '\n' <;> simp [hc, hlf, hrest]
      · intro tail h _
        exact hc h

theorem normalizeBreaks_eq_self_iff (s : List Char) : normalizeBreaks s = s ↔ '\r' ∉ s :=
  ⟨fun h => h ▸ cr_not_mem_normalizeBreaks s, normalizeBreaks_of_cr_not_mem⟩

theorem normalize_normalize (s : String) : normalize (normalize s) = normalize s := by
  rw [← String.toList_inj, toList_normalize, toList_normalize]
  exact normalizeBreaks_of_cr_not_mem (cr_not_mem_normalizeBreaks s.toList)

end ContactCard.Text
