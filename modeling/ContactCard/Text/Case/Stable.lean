import ContactCard.Text.Case

/-!
# Upper case is stable

No character of an upper-cased text has an upper case other than itself, so
upper-casing twice is the same as once. The case data is checked entry by
entry; the lemmas around the check carry it to all characters.
-/

namespace ContactCard.Text

namespace Case

theorem mem_of_mem_page {α : Type} {n : Nat} {entry : α} :
    ∀ {pages : Paged α}, entry ∈ pages.page n → ∃ page ∈ pages, entry ∈ page.2
  | [], h => by simp [Paged.page] at h
  | (last, entries) :: rest, h => by
    rw [Paged.page] at h
    split at h
    · exact ⟨_, List.mem_cons_self, h⟩
    · obtain ⟨page, hpage, hentry⟩ := mem_of_mem_page h
      exact ⟨page, List.mem_cons_of_mem _ hpage, hentry⟩

/-- Whether neither the runs nor the expansions have an entry for `n`. -/
def staysUpper (n : Nat) : Bool :=
  (image? upperRuns n).isNone && (expansion? upperExpansions n).isNone

/-- Whether every code point a run maps to stays. -/
def Run.imagesStay (run : Run) : Bool :=
  (List.range ((run.last - run.first) / run.step + 1)).all fun i =>
    staysUpper (run.image + i * run.step)

theorem upperRuns_stay : (upperRuns.all fun page => page.2.all Run.imagesStay) = true := by
  decide +kernel

theorem upperExpansions_stay :
    (upperExpansions.all fun page => page.2.all fun entry => entry.2.all staysUpper) = true := by
  decide +kernel

theorem upperChar_ofNat {n : Nat} (h : staysUpper n = true) :
    upperChar (Char.ofNat n) = [Char.ofNat n] := by
  by_cases valid : n.isValidChar
  · have code : (Char.ofNat n).toNat = n := by
      rw [Char.ofNat, dif_pos valid]
      rfl
    simp only [staysUpper, Bool.and_eq_true, Option.isNone_iff_eq_none] at h
    simp [upperChar, mapChar, code, h.1, h.2]
  · have fallback : Char.ofNat n = Char.ofNat 0 := by
      rw [Char.ofNat, dif_neg valid]
      rfl
    rw [fallback]
    decide +kernel

theorem staysUpper_of_image {n m : Nat} (h : image? upperRuns n = some m) :
    staysUpper m = true := by
  obtain ⟨run, hrun, hm⟩ := List.exists_of_findSome?_eq_some h
  obtain ⟨page, hpage, hmem⟩ := mem_of_mem_page hrun
  have hstay := List.all_eq_true.1 (List.all_eq_true.1 upperRuns_stay page hpage) run hmem
  rw [Run.image?] at hm
  split at hm
  · next bounds =>
    obtain ⟨low, high, even⟩ := bounds
    have hdiv : (n - run.first) / run.step * run.step = n - run.first :=
      Nat.div_mul_cancel (Nat.dvd_of_mod_eq_zero even)
    have hle : (n - run.first) / run.step ≤ (run.last - run.first) / run.step :=
      Nat.div_le_div_right (by omega)
    have := List.all_eq_true.1 hstay ((n - run.first) / run.step) (by simp; omega)
    rw [hdiv] at this
    simpa using Option.some.inj hm ▸ this
  · simp at hm

theorem staysUpper_of_expansion {n : Nat} {codes : List Nat}
    (h : expansion? upperExpansions n = some codes) : ∀ m ∈ codes, staysUpper m = true := by
  obtain ⟨entry, hentry, hcodes⟩ := List.exists_of_findSome?_eq_some h
  obtain ⟨page, hpage, hmem⟩ := mem_of_mem_page hentry
  have hstay := List.all_eq_true.1 (List.all_eq_true.1 upperExpansions_stay page hpage) entry hmem
  split at hcodes
  · cases hcodes
    exact List.all_eq_true.1 hstay
  · simp at hcodes

theorem upperChars_upperChar (c : Char) : upperChars (upperChar c) = upperChar c := by
  unfold upperChar mapChar
  split
  · next codes h =>
    have stable := staysUpper_of_expansion h
    clear h
    induction codes with
    | nil => rfl
    | cons m rest ih =>
      have tail := ih fun k hk => stable k (List.mem_cons_of_mem _ hk)
      simp only [upperChars, List.map_cons, List.flatMap_cons] at tail ⊢
      rw [upperChar_ofNat (stable m List.mem_cons_self), tail]
      rfl
  · next none =>
    split
    · next m h => simp [upperChars, upperChar_ofNat (staysUpper_of_image h)]
    · next h => simp [upperChars, upperChar, mapChar, none, h]

end Case

@[simp]
theorem upperChars_upperChars (s : List Char) : upperChars (upperChars s) = upperChars s := by
  induction s with
  | nil => rfl
  | cons c rest ih =>
    have split : upperChars (c :: rest) = Case.upperChar c ++ upperChars rest := rfl
    rw [split, upperChars_append, Case.upperChars_upperChar, ih]

@[simp]
theorem upper_upper (s : String) : upper (upper s) = upper s := by
  simp [upper]

end ContactCard.Text
