import ContactCard.Number.Integer
import ContactCard.Proofs.Text.Words
import Mathlib.Data.List.TakeWhile
import Mathlib.Data.Nat.Digits.Defs

/-!
# Integers read back

The decimal text of an integer is a sign, if the integer is negative, and ASCII digits.  There is
nothing at its ends that reading drops, and reading takes all behind the sign for digits, so the
integer comes back unless its text is too long.
-/

namespace ContactCard

/-- Nothing is dropped from text that begins and ends with what stays. -/
theorem Text.stripWith_eq_self {drop : Char → Bool} {s : List Char}
    (hs : ∀ c ∈ s, drop c = false) : stripWith drop s = s := by
  have hfront : ∀ {t : List Char}, (∀ c ∈ t, drop c = false) → t.dropWhile drop = t := by
    intro t ht
    rw [List.dropWhile_eq_self_iff]
    intro hl
    simp [ht _ (List.getElem_mem hl)]
  have hback : ∀ c ∈ s.reverse, drop c = false := fun c hc => hs c (List.mem_reverse.1 hc)
  rw [stripWith, hfront hs, hfront hback, List.reverse_reverse]

namespace Integer

open Text

/-! ## ASCII digits -/

theorem toNat_lt_of_isDigit {c : Char} (hc : c.isDigit = true) : c.toNat < 128 := by
  simp only [Char.isDigit, Bool.and_eq_true, decide_eq_true_iff, UInt32.le_iff_toNat_le] at hc
  exact Nat.lt_of_le_of_lt hc.2 (by decide)

theorem digit?_of_isDigit {c : Char} (hc : c.isDigit = true) :
    digit? 10 c = some (c.toNat - '0'.toNat) :=
  ascii_forall (P := fun c => c.isDigit = true → digit? 10 c = some (c.toNat - '0'.toNat))
    (by decide +kernel) (toNat_lt_of_isDigit hc) hc

theorem isMargin_of_isDigit {c : Char} (hc : c.isDigit = true) : isMargin c = false :=
  ascii_forall (P := fun c => c.isDigit = true → isMargin c = false)
    (by decide +kernel) (toNat_lt_of_isDigit hc) hc

/-- A row of digits is read digit by digit. -/
theorem digits?_of_isDigit {s : List Char} (hs : ∀ c ∈ s, c.isDigit = true) (hne : s ≠ []) :
    digits? 10 s = some (s.map fun c => c.toNat - '0'.toNat) := by
  fun_induction digits? 10 s with
  | case1 => exact absurd rfl hne
  | case2 c =>
      rw [digit?_of_isDigit (hs c List.mem_cons_self)]
      rfl
  | case3 c rest ih =>
      have hunderscore : '_'.isDigit = true := hs '_' (by simp)
      exact absurd hunderscore (by decide)
  | case4 c next rest hnext ih =>
      obtain ⟨hc, hrest⟩ := List.forall_mem_cons.1 hs
      rw [digit?_of_isDigit hc, ih hrest (by simp)]
      rfl

/-- Digits stand for the same number here as in the core library. -/
theorem ofDigits_map (s : List Char) :
    ofDigits 10 (s.map fun c => c.toNat - '0'.toNat) = Nat.ofDigitChars 10 s 0 := by
  rw [ofDigits, List.foldl_map, Nat.ofDigitChars_eq_foldl]

theorem length_toDigits_le {n places : Nat} (hplaces : 0 < places) (hn : n < Nat.pow 10 places) :
    (Nat.toDigits 10 n).length ≤ places :=
  Nat.toDigits_length 10 n places hplaces hn

/-! ## Reading -/

theorem dropMark_ten (s : List Char) : dropMark 10 s = s := by
  fun_cases dropMark 10 s with
  | case1 zero letter rest hmark => exact absurd hmark.2 (by simp [markLetters])
  | case2 => rfl
  | case3 => rfl

theorem natural_of_isDigit {s : List Char} (hs : ∀ c ∈ s, c.isDigit = true) (hne : s ≠ [])
    (hlength : s.length ≤ maxDigits) : natural 10 s = .ok (Nat.ofDigitChars 10 s 0) := by
  have hrun : (s.takeWhile fun c => (digit? 10 c).isSome || c = '_') = s := by
    rw [List.takeWhile_eq_self_iff]
    intro c hc
    rw [digit?_of_isDigit (hs c hc)]
    rfl
  have hshort : ¬maxDigits < (s.map fun c => c.toNat - '0'.toNat).length := by
    rw [List.length_map]
    omega
  rw [natural, hrun, digits?_of_isDigit hs hne]
  simp only [hshort, and_false, Nat.lt_irrefl, if_false, ofDigits_map]

theorem takeSign_of_isDigit {s : List Char} (hs : ∀ c ∈ s, c.isDigit = true) :
    takeSign s = (false, s) := by
  fun_cases takeSign s with
  | case1 rest => exact absurd (hs '-' List.mem_cons_self) (by decide)
  | case2 rest => exact absurd (hs '+' List.mem_cons_self) (by decide)
  | case3 => rfl

theorem parse_eq_ok {base : Nat} {s rest : List Char} {negative : Bool} {n : Nat}
    (hsign : takeSign (stripWith isMargin s) = (negative, rest))
    (hrest : natural base (dropMark base rest) = .ok n) :
    parse base s = .ok (if negative then -(n : Int) else n) := by
  rw [parse, hsign]
  simp only [hrest]
  rfl

/-- An integer whose text is not too long comes back from it. -/
theorem read?_write {n : Int} (hn : isWritable n = true) : read? (write n) = some n := by
  have hdigits : ∀ c ∈ Nat.toDigits 10 n.natAbs, c.isDigit = true := fun c hc =>
    Nat.isDigit_of_mem_toDigits (by omega) (by omega) hc
  have hlength : (Nat.toDigits 10 n.natAbs).length ≤ maxDigits :=
    length_toDigits_le (by decide) (of_decide_eq_true hn)
  have hnatural : natural 10 (dropMark 10 (Nat.toDigits 10 n.natAbs)) = .ok n.natAbs := by
    rw [dropMark_ten, natural_of_isDigit hdigits Nat.toDigits_ne_nil hlength,
      Nat.ofDigitChars_ten_toDigits]
  have hmargins : ∀ c ∈ Nat.toDigits 10 n.natAbs, isMargin c = false := fun c hc =>
    isMargin_of_isDigit (hdigits c hc)
  rw [read?, write, String.toList_ofList]
  by_cases hnegative : n < 0
  · have hsigned : ∀ c ∈ '-' :: Nat.toDigits 10 n.natAbs, isMargin c = false :=
      List.forall_mem_cons.2 ⟨by decide, hmargins⟩
    have hsign : takeSign (stripWith isMargin ('-' :: Nat.toDigits 10 n.natAbs)) =
        (true, Nat.toDigits 10 n.natAbs) := by
      rw [stripWith_eq_self hsigned, takeSign]
    have habs : -(n.natAbs : Int) = n := by omega
    rw [if_pos hnegative, parse_eq_ok hsign hnatural, if_pos rfl, habs]
    rfl
  · have hsign : takeSign (stripWith isMargin (Nat.toDigits 10 n.natAbs)) =
        (false, Nat.toDigits 10 n.natAbs) := by
      rw [stripWith_eq_self hmargins, takeSign_of_isDigit hdigits]
    have habs : (n.natAbs : Int) = n := by omega
    rw [if_neg hnegative, parse_eq_ok hsign hnatural, if_neg Bool.false_ne_true, habs]
    rfl

end Integer

end ContactCard
