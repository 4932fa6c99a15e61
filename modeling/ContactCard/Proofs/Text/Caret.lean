import ContactCard.Proofs.Text.Breaks
import ContactCard.Text.Caret

/-!
# Caret encoding in one pass

Caret encoding is a row of replacements, which together are one pass from left to
right.  The pass writes caret pairs and characters that need none, and every text
made of these is what it writes.  Reading the pairs back undoes the pass up to the
spelling of line breaks, so two texts are encoded alike exactly when they differ in
this spelling alone.
-/

namespace ContactCard.Text

namespace Caret

/-! ## One pass -/

theorem isMark_caret : IsMark ['^', 'n'] := ⟨rfl, rfl⟩

/-- Encodes a value from left to right. -/
def passCarets : List Char → List Char
  | '\r' :: '\n' :: rest => '^' :: 'n' :: passCarets rest
  | c :: rest =>
    (if c = '\r' ∨ c = '\n' then ['^', 'n']
      else if c = '^' then ['^', '^']
      else if c = '"' then ['^', '\'']
      else [c]) ++ passCarets rest
  | [] => []

/-- Doubling carets puts no LF in front. -/
theorem eq_lf_of_double_cons {c : Char} {s rest : List Char}
    (h : replaceChar '^' ['^', '^'] (c :: s) = '\n' :: rest) : c = '\n' := by
  by_cases hc : c = '^'
  · simp [hc] at h
  · rw [replaceChar_cons, if_neg hc] at h
    exact (List.cons.inj h).1

/-- Encoding by replacements is encoding from left to right. -/
theorem encode_eq_passCarets (s : List Char) : encode s = passCarets s := by
  rw [encode, replaceBreaks_eq_passBreaks isMark_caret]
  fun_induction passCarets s with
  | case1 rest ih => simp [passBreaks, ih]
  | case2 c rest hpair ih =>
      rw [replaceChar_cons]
      by_cases hbreak : c = '\r' ∨ c = '\n'
      · have hcaret : c ≠ '^' := by
          rcases hbreak with rfl | rfl <;> decide
        rw [if_neg hcaret, List.singleton_append, passBreaks, if_pos hbreak, if_pos hbreak,
          replaceChar_append, ih]
        · rfl
        -- a CR may only be taken alone when no LF comes after it
        intro tail hc hrest
        cases rest with
        | nil => simp at hrest
        | cons d rest =>
            have hd := eq_lf_of_double_cons hrest
            exact hpair rest hc (by rw [hd])
      · obtain ⟨hcr, hlf⟩ := not_or.1 hbreak
        by_cases hcaret : c = '^'
        · simp [hcaret, passBreaks, ih]
        · by_cases hquote : c = '"' <;> simp [hcaret, hquote, hcr, hlf, passBreaks, ih]
  | case3 => rfl

/-- What is written stands on one line and holds no quote. -/
theorem quote_not_mem_encode (s : List Char) : '"' ∉ encode s :=
  not_mem_replaceChar (by decide) (.inl rfl)

/-! ## Reading back -/

theorem decode_cons {c : Char} (hc : c ≠ '^') (s : List Char) :
    decode (c :: s) = c :: decode s := by
  rw [decode] <;> simp [hc]

/-- Encoded text reads back as the text with its line breaks normalised. -/
theorem decode_encode_eq (s : List Char) : decode (encode s) = normalizeBreaks s := by
  rw [encode_eq_passCarets, normalizeBreaks, replaceBreaks_eq_passBreaks isMark_lf]
  fun_induction passCarets s with
  | case1 rest ih => simp [decode, passBreaks, ih]
  | case2 c rest hpair ih =>
      rw [passBreaks]
      · by_cases hbreak : c = '\r' ∨ c = '\n'
        · simp [hbreak, decode, ih]
        · by_cases hcaret : c = '^'
          · simp [hcaret, decode, ih]
          · by_cases hquote : c = '"'
            · simp [hquote, decode, ih]
            · simp [hbreak, hcaret, hquote, decode_cons hcaret, ih]
      · exact hpair
  | case3 => rfl

/-- The spelling of line breaks does not show in what is written. -/
theorem encode_normalizeBreaks (s : List Char) : encode (normalizeBreaks s) = encode s := by
  rw [encode_eq_passCarets, encode_eq_passCarets, normalizeBreaks,
    replaceBreaks_eq_passBreaks isMark_lf]
  fun_induction passCarets s with
  | case1 rest ih => simp [passBreaks, passCarets, ih]
  | case2 c rest hpair ih =>
      rw [passBreaks]
      · by_cases hbreak : c = '\r' ∨ c = '\n'
        · simp [hbreak, passCarets, ih]
        · have hcr : c ≠ '\r' := fun h => hbreak (.inl h)
          rw [if_neg hbreak, if_neg hbreak, List.singleton_append, passCarets, if_neg hbreak, ih]
          exact fun tail hc _ => hcr hc
      · exact hpair
  | case3 => rfl

/-- Texts are encoded alike exactly when they differ in the spelling of line breaks alone. -/
theorem encode_eq_encode_iff (s t : List Char) :
    encode s = encode t ↔ normalizeBreaks s = normalizeBreaks t := by
  constructor
  · intro h
    rw [← decode_encode_eq s, ← decode_encode_eq t, h]
  · intro h
    rw [← encode_normalizeBreaks s, ← encode_normalizeBreaks t, h]

/-! ## What is written -/

/-- Text put together from caret pairs and from characters that need none. -/
inductive IsEncoded : List Char → Prop
  | nil : IsEncoded []
  | caret {s : List Char} (rest : IsEncoded s) : IsEncoded ('^' :: '^' :: s)
  | lineBreak {s : List Char} (rest : IsEncoded s) : IsEncoded ('^' :: 'n' :: s)
  | quote {s : List Char} (rest : IsEncoded s) : IsEncoded ('^' :: '\'' :: s)
  | plain {c : Char} {s : List Char} (hc : c ∉ ['^', '"', '\r', '\n']) (rest : IsEncoded s) :
    IsEncoded (c :: s)

theorem isEncoded_encode (s : List Char) : IsEncoded (encode s) := by
  rw [encode_eq_passCarets]
  fun_induction passCarets s with
  | case1 rest ih => exact .lineBreak ih
  | case2 c rest hpair ih =>
      by_cases hbreak : c = '\r' ∨ c = '\n'
      · rw [if_pos hbreak]
        exact .lineBreak ih
      · rw [if_neg hbreak]
        by_cases hcaret : c = '^'
        · rw [if_pos hcaret]
          exact .caret ih
        · rw [if_neg hcaret]
          by_cases hquote : c = '"'
          · rw [if_pos hquote]
            exact .quote ih
          · rw [if_neg hquote]
            have hplain : c ∉ ['^', '"', '\r', '\n'] := by
              simpa [hcaret, hquote] using hbreak
            exact .plain hplain ih
  | case3 => exact .nil

/-- Encoded text is written again from what it reads as. -/
theorem IsEncoded.encode_decode {s : List Char} (hs : IsEncoded s) : encode (decode s) = s := by
  rw [encode_eq_passCarets]
  induction hs with
  | nil => rfl
  | caret rest ih => simp [decode, passCarets, ih]
  | lineBreak rest ih => simp [decode, passCarets, ih]
  | quote rest ih => simp [decode, passCarets, ih]
  | plain hc rest ih =>
      simp only [List.mem_cons, List.not_mem_nil, or_false, not_or] at hc
      obtain ⟨hcaret, hquote, hcr, hlf⟩ := hc
      rw [decode_cons hcaret, passCarets, ih]
      · simp [hcaret, hquote, hcr, hlf]
      · exact fun tail hc _ => hcr hc

theorem encode_decode_eq_self_iff (s : List Char) : encode (decode s) = s ↔ IsEncoded s :=
  ⟨fun h => h ▸ isEncoded_encode (decode s), IsEncoded.encode_decode⟩

end Caret

@[simp]
theorem toList_decodeCaret (s : String) : (decodeCaret s).toList = Caret.decode s.toList := by
  simp [decodeCaret]

/-- What is written for a value is made of caret pairs and of characters that need none, and it
reads back as the value with its line breaks normalised.  All such text is written for what it
reads as, and two values are written alike exactly when their normal forms are the same. -/
theorem encodeCaret_isInvertible :
    (∀ v : String, Caret.IsEncoded (encodeCaret v).toList ∧
      decodeCaret (encodeCaret v) = normalize v) ∧
    (∀ s : String, encodeCaret (decodeCaret s) = s ↔ Caret.IsEncoded s.toList) ∧
    ∀ a b : String, encodeCaret a = encodeCaret b ↔ normalize a = normalize b := by
  refine ⟨?_, ?_, ?_⟩
  · intro v
    constructor
    · rw [toList_encodeCaret]
      exact Caret.isEncoded_encode v.toList
    · rw [← String.toList_inj, toList_decodeCaret, toList_encodeCaret, toList_normalize]
      exact Caret.decode_encode_eq v.toList
  · intro s
    rw [← String.toList_inj, toList_encodeCaret, toList_decodeCaret]
    exact Caret.encode_decode_eq_self_iff s.toList
  · intro a b
    rw [← String.toList_inj, ← String.toList_inj, toList_encodeCaret, toList_encodeCaret,
      toList_normalize, toList_normalize]
    exact Caret.encode_eq_encode_iff a.toList b.toList

/-- A caret in the value is doubled, whatever stands behind it. -/
example : encodeCaret "^n\"\r\n^\n\r" = "^^n^'^n^^^n^n" := by decide

end ContactCard.Text
