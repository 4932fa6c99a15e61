import ContactCard.Value
import ContactCard.Proofs.Text.Breaks

/-!
# Spelled scalars on one line

The spelling of a truth value or number holds no line break, and scalars that
count as the same key break a line together or not at all.  They also hold
together or not at all.  A value has a spelling exactly when no integer in it
is too long.
-/

namespace ContactCard

open Text (IsUnbroken)

/-! ## Numbers -/

theorem Integer.isUnbroken_toDigits (n : Nat) : IsUnbroken (Nat.toDigits 10 n) := by
  intro c hc
  have hdigit := Nat.isDigit_of_mem_toDigits (by omega) (by omega) hc
  constructor
  · rintro rfl
    exact absurd hdigit (by decide)
  · rintro rfl
    exact absurd hdigit (by decide)

theorem Integer.isUnbroken_write (n : Int) : IsUnbroken (write n).toList := by
  rw [write, String.toList_ofList]
  have hdigits := isUnbroken_toDigits n.natAbs
  split
  · simpa using hdigits
  · exact hdigits

namespace Binary64

theorem isUnbroken_zeros (count : Int) : IsUnbroken (zeros count) := by
  intro c hc
  rw [List.eq_of_mem_replicate hc]
  decide

theorem isUnbroken_trimZeros {digits : List Char} (hdigits : IsUnbroken digits) :
    IsUnbroken (trimZeros digits) := by
  apply hdigits.subset
  intro c hc
  have hmem := (List.dropWhile_sublist _).subset (List.mem_reverse.1 hc)
  exact List.mem_reverse.1 hmem

theorem isUnbroken_positional {digits : List Char} (hdigits : IsUnbroken digits) (point : Int) :
    IsUnbroken (positional digits point) := by
  have htake : IsUnbroken (digits.take point.toNat) := hdigits.subset (List.take_subset _ _)
  have hdrop : IsUnbroken (digits.drop point.toNat) := hdigits.subset (List.drop_subset _ _)
  rw [positional]
  split
  · simp [isUnbroken_zeros, hdigits]
  · by_cases hrest : (digits.drop point.toNat).isEmpty = true
    · simp [hrest, htake, isUnbroken_zeros]
    · simp [hrest, htake, hdrop, isUnbroken_zeros]

theorem isUnbroken_scientific {digits : List Char} (hdigits : IsUnbroken digits) (point : Int) :
    IsUnbroken (scientific digits point) := by
  have hsize := Integer.isUnbroken_toDigits (point - 1).natAbs
  have hsign : IsUnbroken [if point - 1 < 0 then '-' else '+'] := by
    split <;> decide
  simp only [Text.isUnbroken_cons] at hsign
  -- The mantissa has no digit, one digit or a point after the first.
  rcases digits with _ | ⟨d, _ | ⟨e, rest⟩⟩ <;>
    simp_all [scientific, isUnbroken_zeros]

theorem isUnbroken_magnitude (significand : Nat) (exponent : Int) :
    IsUnbroken (magnitude significand exponent) := by
  have hdigits : ∀ n, IsUnbroken (trimZeros (Nat.toDigits 10 n)) :=
    fun n => isUnbroken_trimZeros (Integer.isUnbroken_toDigits n)
  rw [magnitude]
  split
  · decide
  · dsimp only
    split
    · exact isUnbroken_positional (hdigits _) _
    · exact isUnbroken_scientific (hdigits _) _

theorem isUnbroken_write (x : Binary64) : IsUnbroken x.write.toList := by
  cases x with
  | nan => decide
  | infinite negative => cases negative <;> decide
  | finite negative significand exponent =>
      rw [write, String.toList_ofList, Text.isUnbroken_append]
      refine ⟨?_, isUnbroken_magnitude significand exponent⟩
      cases negative <;> decide

end Binary64

namespace Number

def isZero : Number → Bool
  | .dyadic numerator _ => numerator == 0
  | _ => false

/-- Numbers that are equal are zero together. -/
theorem isZero_eq_of_compare? {m n : Number} (hequal : m.compare? n = some .eq) :
    m.isZero = n.isZero := by
  cases m with
  | nan => cases hequal
  | infinite a =>
      cases n with
      | nan => cases hequal
      | infinite b => rfl
      | dyadic b f => cases a <;> cases hequal
  | dyadic a e =>
      cases n with
      | nan => cases hequal
      | infinite b => cases b <;> cases hequal
      | dyadic b f =>
          have hscaled := Int.compare_eq_eq.1 (Option.some.inj hequal)
          have hzero : ∀ (x : Int) (k : Nat), x * (Nat.pow 2 k : Nat) = 0 ↔ x = 0 := by
            intro x k
            have hpow : ((2 ^ k : Nat) : Int) ≠ 0 := by
              have := Nat.two_pow_pos k
              omega
            exact Int.mul_eq_zero.trans (or_iff_left hpow)
          rw [isZero, isZero, Bool.eq_iff_iff, beq_iff_eq, beq_iff_eq, ← hzero a, hscaled, hzero]

end Number

/-! ## Scalars -/

namespace Scalar

theorem isUnbroken_spell_of_number {s : Scalar} (hs : s.number?.isSome = true) :
    IsUnbroken s.spell.toList := by
  cases s with
  | bool b => cases b <;> decide
  | int n => exact Integer.isUnbroken_write n
  | float x => exact Binary64.isUnbroken_write x
  | nan => decide
  | null => cases hs
  | text t => cases hs
  | bytes b => cases hs
  | path t => cases hs

/-- Scalars that are the same key are equal, or are numbers that are. -/
theorem eq_or_compare_of_same {s t : Scalar} (hsame : Key.same s t = true) :
    s = t ∨ ∃ m n, s.number? = some m ∧ t.number? = some n ∧ m.compare? n = some .eq := by
  simp only [Key.same, same] at hsame
  split at hsame
  · exact .inl rfl
  · exact .inl rfl
  · exact .inl (by rw [eq_of_beq hsame])
  · exact .inl (by rw [eq_of_beq hsame])
  · exact .inl (by rw [eq_of_beq hsame])
  · right
    cases hs : s.number? with
    | none => simp [hs] at hsame
    | some m =>
        cases ht : t.number? with
        | none => simp [hs, ht] at hsame
        | some n => exact ⟨m, n, rfl, rfl, by simpa [hs, ht] using hsame⟩

theorem eq_or_numbers_of_same {s t : Scalar} (hsame : Key.same s t = true) :
    s = t ∨ s.number?.isSome = true ∧ t.number?.isSome = true := by
  apply (eq_or_compare_of_same hsame).imp_right
  rintro ⟨m, n, hs, ht, -⟩
  exact ⟨by rw [hs]; rfl, by rw [ht]; rfl⟩

/-- What numbers have in common is no different between scalars that are the same key. -/
theorem iff_of_same {P : Scalar → Prop}
    (hnumbers : ∀ {u v : Scalar}, u.number?.isSome = true → v.number?.isSome = true → (P u ↔ P v))
    {s t : Scalar} (hsame : s = t ∨ Key.same s t = true) : P s ↔ P t := by
  rcases hsame.elim .inl eq_or_numbers_of_same with rfl | ⟨hs, ht⟩
  · exact Iff.rfl
  · exact hnumbers hs ht

/-- The same key breaks a line together or not at all. -/
theorem isUnbroken_spell_iff_of_same {s t : Scalar} (hsame : s = t ∨ Key.same s t = true) :
    IsUnbroken s.spell.toList ↔ IsUnbroken t.spell.toList :=
  iff_of_same (P := fun u => IsUnbroken u.spell.toList)
    (fun hu hv => iff_of_true (isUnbroken_spell_of_number hu) (isUnbroken_spell_of_number hv))
    hsame

/-- A text is the same key as itself only. -/
theorem eq_text_iff_of_same {s t : Scalar} (hsame : s = t ∨ Key.same s t = true) (u : String) :
    s = .text u ↔ t = .text u := by
  have hnumber : ∀ {v : Scalar}, v.number?.isSome = true → v ≠ .text u := by
    rintro v hv rfl
    cases hv
  exact iff_of_same (P := fun v => v = .text u)
    (fun hu hv => iff_of_false (hnumber hu) (hnumber hv)) hsame

/-- Of the numbers only the zeros do not hold. -/
theorem holds_eq_of_number {s : Scalar} {m : Number} (hs : s.number? = some m) :
    s.holds = !m.isZero := by
  cases s with
  | null => cases hs
  | text t => cases hs
  | bytes b => cases hs
  | path t => cases hs
  | nan =>
      cases hs
      rfl
  | bool b =>
      cases hs
      cases b <;> rfl
  | int n =>
      cases hs
      rfl
  | float x =>
      cases hs
      cases x with
      | nan => rfl
      | infinite negative => rfl
      | finite negative significand exponent =>
          cases negative <;> cases significand <;> rfl

theorem holds_eq_of_same {s t : Scalar} (hsame : s = t ∨ Key.same s t = true) :
    s.holds = t.holds := by
  rcases hsame.elim .inl eq_or_compare_of_same with rfl | ⟨m, n, hs, ht, hequal⟩
  · rfl
  · rw [holds_eq_of_number hs, holds_eq_of_number ht, Number.isZero_eq_of_compare? hequal]

/-- What does not hold breaks no line. -/
theorem isUnbroken_spell_of_not_holds {s : Scalar} (hs : s.holds = false) :
    IsUnbroken s.spell.toList := by
  cases s with
  | null => decide
  | bool b => exact isUnbroken_spell_of_number rfl
  | int n => exact isUnbroken_spell_of_number rfl
  | float x => exact isUnbroken_spell_of_number rfl
  | nan => cases hs
  | text t =>
      have hempty : t = "" := by simpa [holds] using hs
      rw [hempty]
      decide
  | bytes b =>
      have hempty : b = [] := by simpa [holds] using hs
      rw [hempty]
      decide
  | path t => cases hs

end Scalar

/-! ## Values -/

namespace Value

theorem isSpelled_list_iff (items : List Value) :
    (list items).isSpelled = true ↔ ∀ v ∈ items, v.isSpelled = true := by
  rw [isSpelled]
  induction items with
  | nil => simp [areSpelled]
  | cons v rest ih => rw [areSpelled, Bool.and_eq_true, ih, List.forall_mem_cons]

theorem isSpelled_mapping_iff (entries : List (Scalar × Value)) :
    (mapping entries).isSpelled = true ↔
      ∀ entry ∈ entries, entry.1.isSpelled = true ∧ entry.2.isSpelled = true := by
  rw [isSpelled]
  induction entries with
  | nil => simp [areEntriesSpelled]
  | cons entry rest ih =>
      rw [areEntriesSpelled, Bool.and_eq_true, Bool.and_eq_true, ih, List.forall_mem_cons]

theorem spelling_eq_ok_iff {v : Value} {s : String} :
    v.spelling = .ok s ↔ v.isSpelled = true ∧ s = v.spell := by
  rw [spelling]
  cases v.isSpelled <;> simp [eq_comm]

end Value

end ContactCard
