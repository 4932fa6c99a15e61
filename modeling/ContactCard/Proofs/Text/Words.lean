import ContactCard.Text.Case
import ContactCard.Proofs.Text.Breaks
import Mathlib.Data.List.Basic

/-!
# Where words end

Text is taken apart from left to right: a part that holds none of some stops ends at
the first of them.  Words are such parts; they are made of ASCII letters, digits and
hyphens, and stay words in upper case.
-/

namespace ContactCard.Text

/-! ## Cutting text -/

/-- Text that begins with one of some characters. -/
def BeginsWith (stops : List Char) (s : List Char) : Prop := ∃ c ∈ stops, ∃ rest, s = c :: rest

theorem beginsWith_cons {stops : List Char} {c : Char} (hc : c ∈ stops) (rest : List Char) :
    BeginsWith stops (c :: rest) :=
  ⟨c, hc, rest, rfl⟩

theorem BeginsWith.mono {few many s : List Char} (hs : BeginsWith few s) (hsubset : few ⊆ many) :
    BeginsWith many s := by
  obtain ⟨c, hc, rest, rfl⟩ := hs
  exact beginsWith_cons (hsubset hc) rest

theorem BeginsWith.ne_cons {stops s : List Char} (hs : BeginsWith stops s) {c : Char}
    (hc : c ∉ stops) (tail : List Char) : s ≠ c :: tail := by
  obtain ⟨d, hd, rest, rfl⟩ := hs
  intro heq
  exact hc ((List.cons.inj heq).1 ▸ hd)

/-- Text without stops ends where the first stop comes. -/
theorem append_cut {stops first second x y : List Char} (hfirst : ∀ c ∈ first, c ∉ stops)
    (hsecond : ∀ c ∈ second, c ∉ stops) (hx : BeginsWith stops x) (hy : BeginsWith stops y)
    (heq : first ++ x = second ++ y) : first = second ∧ x = y := by
  induction first generalizing second with
  | nil =>
      cases second with
      | nil => exact ⟨rfl, heq⟩
      | cons d second => exact absurd heq (hx.ne_cons (hsecond d List.mem_cons_self) _)
  | cons c first ih =>
      cases second with
      | nil => exact absurd heq.symm (hy.ne_cons (hfirst c List.mem_cons_self) _)
      | cons d second =>
          obtain ⟨rfl, htail⟩ := List.cons.inj heq
          obtain ⟨rfl, hxy⟩ := ih (fun e he => hfirst e (List.mem_cons_of_mem _ he))
            (fun e he => hsecond e (List.mem_cons_of_mem _ he)) htail
          exact ⟨rfl, hxy⟩

/-- A text in which a character stands once can be cut there in one way. -/
theorem append_cut_of_not_mem {c : Char} {first second x y : List Char} (hsecond : c ∉ second)
    (hy : c ∉ y) (heq : first ++ c :: x = second ++ c :: y) : first = second ∧ x = y := by
  have hcount := congrArg (List.count c) heq
  simp only [List.count_append, List.count_cons_self, List.count_eq_zero_of_not_mem hsecond,
    List.count_eq_zero_of_not_mem hy] at hcount
  have hfirst : c ∉ first := List.not_mem_of_count_eq_zero (by omega)
  have hstops : ∀ {s : List Char}, c ∉ s → ∀ d ∈ s, d ∉ [c] :=
    fun hs d hd hstop => hs (List.mem_singleton.1 hstop ▸ hd)
  obtain ⟨hcut, hrest⟩ := append_cut (hstops hfirst) (hstops hsecond)
    (beginsWith_cons List.mem_cons_self x) (beginsWith_cons List.mem_cons_self y) heq
  exact ⟨hcut, (List.cons.inj hrest).2⟩

/-! ## Words -/

/-- ASCII letters, digits and hyphens. -/
def IsWordChar (c : Char) : Prop :=
  'A' ≤ c ∧ c ≤ 'Z' ∨ 'a' ≤ c ∧ c ≤ 'z' ∨ '0' ≤ c ∧ c ≤ '9' ∨ c = '-'

instance (c : Char) : Decidable (IsWordChar c) := inferInstanceAs (Decidable (_ ∨ _))

/-- Text of ASCII letters, digits and hyphens. -/
def IsWord (s : String) : Prop := ∀ c ∈ s.toList, IsWordChar c

instance (s : String) : Decidable (IsWord s) := List.decidableBAll IsWordChar s.toList

theorem IsWordChar.toNat_lt {c : Char} (hc : IsWordChar c) : c.toNat < 128 := by
  have hle : ∀ d : Char, c ≤ d → c.toNat ≤ d.toNat := fun _ h => h
  rcases hc with ⟨-, h⟩ | ⟨-, h⟩ | ⟨-, h⟩ | rfl
  · exact Nat.lt_of_le_of_lt (hle _ h) (by decide)
  · exact Nat.lt_of_le_of_lt (hle _ h) (by decide)
  · exact Nat.lt_of_le_of_lt (hle _ h) (by decide)
  · decide

/-- The ASCII characters can be checked one by one. -/
theorem ascii_forall {P : Char → Prop} (hP : ∀ n < 128, P (Char.ofNat n)) {c : Char}
    (hc : c.toNat < 128) : P c := by
  have hcode := hP c.toNat hc
  rwa [Char.ofNat_toNat] at hcode

theorem IsWordChar.isWord_upperChar {c : Char} (hc : IsWordChar c) :
    IsWord (.ofList (Case.upperChar c)) :=
  ascii_forall (P := fun c => IsWordChar c → IsWord (.ofList (Case.upperChar c)))
    (by decide +kernel) hc.toNat_lt hc

theorem IsWord.upper {s : String} (hs : IsWord s) : IsWord (upper s) := by
  intro d hd
  rw [toList_upper] at hd
  obtain ⟨c, hc, hd⟩ := List.mem_flatMap.1 hd
  exact (hs c hc).isWord_upperChar d (by simpa using hd)

/-- What separates the parts of a line is in no word. -/
theorem IsWord.not_mem_stops {s : String} (hs : IsWord s) :
    ∀ c ∈ s.toList, c ∉ ['.', '=', ';', ':'] := by
  intro c hc hstop
  have hword := hs c hc
  simp only [List.mem_cons, List.not_mem_nil, or_false] at hstop
  rcases hstop with rfl | rfl | rfl | rfl <;> exact absurd hword (by decide)

theorem IsWord.isUnbroken {s : String} (hs : IsWord s) : IsUnbroken s.toList := by
  intro c hc
  constructor
  · rintro rfl
    exact absurd (hs _ hc) (by decide)
  · rintro rfl
    exact absurd (hs _ hc) (by decide)

end ContactCard.Text
