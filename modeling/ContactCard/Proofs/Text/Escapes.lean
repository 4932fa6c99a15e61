import ContactCard.Proofs.Text.Breaks
import ContactCard.Text.Escape

/-!
# Escapes in one pass

Escaping is a row of replacements, each over the result of the one before.  For
every separator that is no backslash and no line break the row is one pass from
left to right, which writes a character either as it is or as a backslash and
one more character.  Free text is escaped by such a pass too, for two separators
at once.  Reading escapes back then undoes the pass, up to the spelling of line
breaks.
-/

namespace ContactCard.Text.Escape

/-! ## One pass -/

/-- A separator that escaping treats like any other character. -/
structure IsPlainSeparator (separator : Char) : Prop where
  ne_backslash : separator ≠ '\\'
  ne_cr : separator ≠ '\r'
  ne_lf : separator ≠ '\n'

theorem isMark_escape : IsMark ['\\', 'n'] := ⟨rfl, rfl⟩

/-- Escapes a value from left to right. -/
def passEscapes (separator : Char) : List Char → List Char
  | '\r' :: '\n' :: rest => '\\' :: 'n' :: passEscapes separator rest
  | c :: rest =>
    (if c = '\r' ∨ c = '\n' then ['\\', 'n']
      else if c = '\\' ∨ c = separator then ['\\', c]
      else [c]) ++ passEscapes separator rest
  | [] => []

/-- The first two replacements, taken together. -/
def shield (separator : Char) (s : List Char) : List Char :=
  replaceChar separator ['\\', separator] (replaceChar '\\' ['\\', '\\'] s)

theorem encode_eq {separator : Char} (hseparator : separator ≠ '\\') (s : List Char) :
    encode separator s = replaceBreaks ['\\', 'n'] (shield separator s) := by
  simp [encode, shield, encodeBreaks, hseparator]

theorem shield_cons {separator : Char} (hseparator : separator ≠ '\\') (c : Char)
    (s : List Char) :
    shield separator (c :: s) =
      (if c = '\\' ∨ c = separator then ['\\', c] else [c]) ++ shield separator s := by
  have hbackslash : '\\' ≠ separator := hseparator.symm
  by_cases hc : c = '\\'
  · simp [shield, hc, hbackslash]
  · by_cases hs : c = separator
    · subst hs
      simp [shield, hseparator]
    · simp [shield, hc, hs]

/-- Shielding puts no LF in front. -/
theorem eq_lf_of_shield_cons {separator : Char} (hseparator : IsPlainSeparator separator) {c : Char}
    {s rest : List Char} (h : shield separator (c :: s) = '\n' :: rest) : c = '\n' := by
  rw [shield_cons hseparator.ne_backslash] at h
  by_cases hc : c = '\\' ∨ c = separator
  · simp [hc] at h
  · rw [if_neg hc] at h
    exact (List.cons.inj h).1

/-- Escaping by replacements is escaping from left to right. -/
theorem encode_eq_passEscapes {separator : Char} (hseparator : IsPlainSeparator separator)
    (s : List Char) : encode separator s = passEscapes separator s := by
  obtain ⟨hbackslash, hcr, hlf⟩ := hseparator
  rw [encode_eq hbackslash, replaceBreaks_eq_passBreaks isMark_escape]
  fun_induction passEscapes separator s with
  | case1 rest ih =>
      have hshield : shield separator ('\r' :: '\n' :: rest) =
          '\r' :: '\n' :: shield separator rest := by
        simp [shield_cons hbackslash, hcr.symm, hlf.symm]
      simp [hshield, passBreaks, ih]
  | case2 c rest hpair ih =>
      rw [shield_cons hbackslash]
      by_cases hbreak : c = '\r' ∨ c = '\n'
      · have hplain : ¬(c = '\\' ∨ c = separator) := by
          rcases hbreak with rfl | rfl
          · simp [hcr.symm]
          · simp [hlf.symm]
        rw [if_neg hplain, if_pos hbreak, List.singleton_append, passBreaks, if_pos hbreak, ih]
        -- a CR may only be taken alone when no LF comes after it
        intro tail hc hrest
        cases rest with
        | nil => simp [shield] at hrest
        | cons d rest =>
            have hd := eq_lf_of_shield_cons ⟨hbackslash, hcr, hlf⟩ hrest
            exact hpair rest hc (by rw [hd])
      · obtain ⟨hc, hc'⟩ := not_or.1 hbreak
        by_cases hshielded : c = '\\' ∨ c = separator
        · simp [hshielded, passBreaks, hc, hc', ih]
        · simp [hshielded, passBreaks, hc, hc', ih]
  | case3 => rfl

/-! ## Several separators -/

/-- Escapes a value from left to right for text in which any of some separators may delimit. -/
def passAll (separators : List Char) : List Char → List Char
  | '\r' :: '\n' :: rest => '\\' :: 'n' :: passAll separators rest
  | c :: rest =>
    (if c = '\r' ∨ c = '\n' then ['\\', 'n']
      else if c = '\\' ∨ c ∈ separators then ['\\', c]
      else [c]) ++ passAll separators rest
  | [] => []

theorem passEscapes_eq_passAll (separator : Char) (s : List Char) :
    passEscapes separator s = passAll [separator] s := by
  fun_induction passEscapes separator s with
  | case1 rest ih => rw [passAll, ih]
  | case2 c rest hpair ih =>
      rw [passAll, ih]
      · simp only [List.mem_singleton]
      · exact hpair
  | case3 => rfl

theorem encode_eq_passAll {separator : Char} (hseparator : IsPlainSeparator separator)
    (s : List Char) : encode separator s = passAll [separator] s := by
  rw [encode_eq_passEscapes hseparator, passEscapes_eq_passAll]

/-- One more replacement, over the result, is one more separator of the pass.  What it finds
stood in the value, since no escape before it has written the separator. -/
theorem replaceChar_passAll {separators : List Char} {next : Char}
    (hnext : IsPlainSeparator next) (hfresh : next ∉ separators) (hletter : next ≠ 'n')
    (s : List Char) :
    replaceChar next ['\\', next] (passAll separators s) = passAll (separators ++ [next]) s := by
  obtain ⟨hbackslash, hcr, hlf⟩ := hnext
  fun_induction passAll separators s with
  | case1 rest ih => simp [passAll, hbackslash.symm, hletter.symm, ih]
  | case2 c rest hpair ih =>
      rw [passAll, replaceChar_append, ih]
      · congr 1
        by_cases hbreak : c = '\r' ∨ c = '\n'
        · simp [hbreak, hbackslash.symm, hletter.symm]
        · by_cases hshielded : c = '\\' ∨ c ∈ separators
          · have hc : c ≠ next := by
              rintro rfl
              exact hshielded.elim hbackslash hfresh
            simp [hbreak, hshielded, hbackslash.symm, hc]
          · by_cases hc : c = next
            · subst hc
              simp [hbreak, hshielded]
            · simp [hbreak, hshielded, hc]
      · exact hpair
  | case3 => rfl

/-- Free text is escaped for commas and semicolons at once. -/
theorem encodeText_eq_passAll (s : List Char) : encodeText s = passAll [',', ';'] s := by
  have hcomma : IsPlainSeparator ',' := by constructor <;> decide
  have hsemicolon : IsPlainSeparator ';' := by constructor <;> decide
  rw [encodeText, encode_eq_passAll hcomma,
    replaceChar_passAll hsemicolon (by decide) (by decide)]
  rfl

/-! ## Reading back -/

@[simp]
theorem decode_nil : decode [] = [] := rfl

@[simp]
theorem decode_pair (c : Char) (s : List Char) :
    decode ('\\' :: c :: s) = meaning c :: decode s := by
  simp [decode]

theorem decode_cons {c : Char} (hc : c ≠ '\\') (s : List Char) :
    decode (c :: s) = c :: decode s := by
  cases s <;> simp [decode, hc]

/-- A separator that no escape sequence stands for. -/
structure IsSeparator (separator : Char) : Prop extends IsPlainSeparator separator where
  ne_n : separator ≠ 'n'
  ne_N : separator ≠ 'N'

theorem meaning_separator {separator : Char} (hseparator : IsSeparator separator) :
    meaning separator = separator := by
  simp [meaning, hseparator.ne_n, hseparator.ne_N]

/-- Escapes read back as the text with its line breaks normalised, if no separator is a letter
that stands for something else behind a backslash. -/
theorem decode_passAll {separators : List Char} (hseparators : ∀ c ∈ separators, meaning c = c)
    (s : List Char) : decode (passAll separators s) = normalizeBreaks s := by
  rw [normalizeBreaks, replaceBreaks_eq_passBreaks isMark_lf]
  fun_induction passAll separators s with
  | case1 rest ih => simp [passBreaks, ih, meaning]
  | case2 c rest hpair ih =>
      rw [passBreaks]
      · by_cases hbreak : c = '\r' ∨ c = '\n'
        · simp [hbreak, ih, meaning]
        · by_cases hshielded : c = '\\' ∨ c ∈ separators
          · have hmeaning : meaning c = c := by
              rcases hshielded with rfl | hmem
              · rfl
              · exact hseparators c hmem
            simp [hbreak, hshielded, hmeaning, ih]
          · have hc : c ≠ '\\' := fun h => hshielded (.inl h)
            simp [hbreak, hshielded, decode_cons hc, ih]
      · exact hpair
  | case3 => rfl

/-- Escaped text reads back as the text with its line breaks normalised. -/
theorem decode_encode {separator : Char} (hseparator : IsSeparator separator) (s : List Char) :
    decode (encode separator s) = normalizeBreaks s := by
  rw [encode_eq_passAll hseparator.toIsPlainSeparator]
  apply decode_passAll
  intro c hc
  rw [List.mem_singleton.1 hc, meaning_separator hseparator]

/-- Free text reads back in the same way. -/
theorem decode_encodeText (s : List Char) : decode (encodeText s) = normalizeBreaks s := by
  rw [encodeText_eq_passAll]
  exact decode_passAll (by simp [meaning]) s

/-- Reading escapes back adds only line breaks. -/
theorem mem_decode {x : Char} {s : List Char} (hx : x ∈ decode s) : x ∈ s ∨ x = '\n' := by
  fun_induction decode s with
  | case1 => exact .inl hx
  | case2 c => exact .inl hx
  | case3 d rest ih =>
      rcases List.mem_cons.1 hx with hmeaning | hrest
      · rw [meaning] at hmeaning
        split at hmeaning
        · exact .inr hmeaning
        · exact .inl (by simp [hmeaning])
      · exact (ih hrest).imp_left fun h => by simp [h]
  | case4 c d rest hc ih =>
      rcases List.mem_cons.1 hx with rfl | hrest
      · exact .inl List.mem_cons_self
      · exact (ih hrest).imp_left (List.mem_cons_of_mem c)

/-! ## Escaped text stands on one line -/

theorem isUnbroken_encodeBreaks (s : List Char) : IsUnbroken (encodeBreaks s) :=
  isUnbroken_replaceBreaks (by decide) s

theorem isUnbroken_encode (separator : Char) (s : List Char) : IsUnbroken (encode separator s) :=
  isUnbroken_encodeBreaks _

theorem isUnbroken_encodeText (s : List Char) : IsUnbroken (encodeText s) :=
  isUnbroken_replaceChar (by decide) fun x hx => .inr (isUnbroken_encode ',' s x hx)

/-! ## Text that escaping leaves as it is -/

theorem encodeBreaks_eq_self_iff (s : List Char) : encodeBreaks s = s ↔ IsUnbroken s := by
  constructor
  · intro heq
    rw [← heq]
    exact isUnbroken_encodeBreaks s
  · exact fun hs => replaceBreaks_of_isUnbroken hs _

/-- The text before its line breaks are encoded, for any separator. -/
def shielded (separator : Char) (s : List Char) : List Char :=
  if separator = '\\' then replaceChar '\\' ['\\', '\\'] s else shield separator s

theorem encode_eq_encodeBreaks (separator : Char) (s : List Char) :
    encode separator s = encodeBreaks (shielded separator s) := rfl

theorem shielded_of_not_mem {separator : Char} {s : List Char} (hbackslash : '\\' ∉ s)
    (hseparator : separator ∉ s) : shielded separator s = s := by
  simp only [shielded, shield, replaceChar_of_not_mem hbackslash,
    replaceChar_of_not_mem hseparator, ite_self]

/-- Both replacements make text longer, so that neither may find anything. -/
theorem not_mem_of_length_shielded_le {separator : Char} {s : List Char}
    (hlength : (shielded separator s).length ≤ s.length) : '\\' ∉ s ∧ separator ∉ s := by
  rw [shielded] at hlength
  split at hlength
  · next hseparator =>
    have hbackslash := not_mem_of_length_replaceChar_le rfl hlength
    exact ⟨hbackslash, hseparator ▸ hbackslash⟩
  · rw [shield] at hlength
    have hdoubled : (replaceChar '\\' ['\\', '\\'] s).length ≤ s.length := by
      rw [length_replaceChar rfl] at hlength
      omega
    have hbackslash := not_mem_of_length_replaceChar_le rfl hdoubled
    rw [replaceChar_of_not_mem hbackslash] at hlength
    exact ⟨hbackslash, not_mem_of_length_replaceChar_le rfl hlength⟩

theorem le_length_encode (separator : Char) (s : List Char) :
    s.length ≤ (encode separator s).length := by
  have hshielded : s.length ≤ (shielded separator s).length := by
    rw [shielded]
    split
    · rw [length_replaceChar rfl]
      omega
    · rw [shield, length_replaceChar rfl, length_replaceChar rfl]
      omega
  exact Nat.le_trans hshielded (le_length_replaceBreaks rfl _)

theorem encode_eq_self_iff (separator : Char) (s : List Char) :
    encode separator s = s ↔ ∀ c ∈ s, c ∉ ['\\', separator, '\r', '\n'] := by
  have hsplit : (∀ c ∈ s, c ∉ ['\\', separator, '\r', '\n']) ↔
      ('\\' ∉ s ∧ separator ∉ s) ∧ IsUnbroken s := by
    simp only [List.mem_cons, List.not_mem_nil, or_false, not_or, IsUnbroken]
    constructor
    · intro h
      exact ⟨⟨fun hmem => (h _ hmem).1 rfl, fun hmem => (h _ hmem).2.1 rfl⟩,
        fun c hc => (h c hc).2.2⟩
    · rintro ⟨⟨hbackslash, hseparator⟩, hbreaks⟩ c hc
      exact ⟨fun h => hbackslash (h ▸ hc), fun h => hseparator (h ▸ hc), hbreaks c hc⟩
  rw [hsplit, encode_eq_encodeBreaks]
  constructor
  · intro heq
    have hlength : (shielded separator s).length ≤ s.length :=
      calc (shielded separator s).length
          ≤ (encodeBreaks (shielded separator s)).length := le_length_replaceBreaks rfl _
        _ = s.length := by rw [heq]
    have hplain := not_mem_of_length_shielded_le hlength
    rw [shielded_of_not_mem hplain.1 hplain.2] at heq
    exact ⟨hplain, (encodeBreaks_eq_self_iff s).1 heq⟩
  · rintro ⟨⟨hbackslash, hseparator⟩, hbreaks⟩
    rw [shielded_of_not_mem hbackslash hseparator]
    exact (encodeBreaks_eq_self_iff s).2 hbreaks

theorem encodeText_eq_self_iff (s : List Char) :
    encodeText s = s ↔ ∀ c ∈ s, c ∉ ['\\', ',', ';', '\r', '\n'] := by
  have hsplit : (∀ c ∈ s, c ∉ ['\\', ',', ';', '\r', '\n']) ↔
      encode ',' s = s ∧ ';' ∉ s := by
    rw [encode_eq_self_iff]
    simp only [List.mem_cons, List.not_mem_nil, or_false, not_or]
    constructor
    · intro h
      exact ⟨fun c hc => ⟨(h c hc).1, (h c hc).2.1, (h c hc).2.2.2⟩,
        fun hmem => (h _ hmem).2.2.1 rfl⟩
    · rintro ⟨hothers, hsemicolon⟩ c hc
      obtain ⟨hbackslash, hcomma, hbreaks⟩ := hothers c hc
      exact ⟨hbackslash, hcomma, fun h => hsemicolon (h ▸ hc), hbreaks⟩
  rw [hsplit, encodeText]
  constructor
  · intro heq
    have hlength : (replaceChar ';' ['\\', ';'] (encode ',' s)).length ≤ (encode ',' s).length := by
      rw [heq]
      exact le_length_encode ',' s
    have hsemicolon := not_mem_of_length_replaceChar_le rfl hlength
    rw [replaceChar_of_not_mem hsemicolon] at heq
    exact ⟨heq, heq ▸ hsemicolon⟩
  · rintro ⟨hothers, hsemicolon⟩
    rw [hothers, replaceChar_of_not_mem hsemicolon]

/-- Shielding a character adds only backslashes. -/
theorem mem_replaceChar_backslash {c x : Char} {s : List Char}
    (hx : x ∈ replaceChar c ['\\', c] s) : x ∈ s ∨ x = '\\' := by
  rcases mem_replaceChar hx with hmem | ⟨hc, hmark⟩
  · exact .inl hmem
  · rcases List.mem_cons.1 hmark with rfl | hsecond
    · exact .inr rfl
    · exact .inl (List.mem_singleton.1 hsecond ▸ hc)

/-- Escaping adds only backslashes and the letter for a line break. -/
theorem mem_encode {separator x : Char} {s : List Char} (hx : x ∈ encode separator s) :
    x ∈ s ∨ x = '\\' ∨ x = 'n' := by
  have hshielded : ∀ y ∈ shielded separator s, y ∈ s ∨ y = '\\' := by
    intro y hy
    rw [shielded] at hy
    split at hy
    · exact mem_replaceChar_backslash hy
    · rcases mem_replaceChar_backslash hy with hmem | hbackslash
      · exact mem_replaceChar_backslash hmem
      · exact .inr hbackslash
  rw [encode_eq_encodeBreaks] at hx
  rcases mem_replaceBreaks hx with hmem | hmark
  · exact (hshielded x hmem).imp_right .inl
  · exact .inr (by simpa using hmark)

theorem mem_encodeText {x : Char} {s : List Char} (hx : x ∈ encodeText s) :
    x ∈ s ∨ x = '\\' ∨ x = 'n' := by
  rcases mem_replaceChar_backslash hx with hmem | hbackslash
  · exact mem_encode hmem
  · exact .inr (.inl hbackslash)

end ContactCard.Text.Escape
