import ContactCard.Proofs.Text.Cutting

/-!
# Escaped text

Escaping by one replacement after another is the same as escaping in one pass, whatever the
separator is, even the letter that stands for a line break.  What the pass leaves stands on one
line, and a separator in it is always the second half of an escape: the backslashes before it
are odd in number, however many the value itself has there.
-/

namespace ContactCard.Text

/-- Text on one line in which an odd number of backslashes stands before every separator. -/
structure IsEscaped (separators s : List Char) : Prop where
  isUnbroken : IsUnbroken s
  endsInEscape : ∀ separator ∈ separators, ∀ before after,
    s = before ++ separator :: after → Fields.EndsInEscape before

/-- The pass leaves escaped text if no separator is a backslash. -/
theorem isEscaped_passAll {separators : List Char} (hbackslash : '\\' ∉ separators)
    {s : List Char} (hs : IsUnbroken (Escape.passAll separators s)) :
    IsEscaped separators (Escape.passAll separators s) where
  isUnbroken := hs
  endsInEscape := by
    intro separator hseparator before after hsplit
    have hne : separator ≠ '\\' := fun h => hbackslash (h ▸ hseparator)
    have hbare : ¬Fields.HasBare separator (Escape.passAll separators s) :=
      (Fields.shielded_passAll hseparator s).not_hasBare hne
    by_contra hbefore
    exact hbare ⟨before, after, hsplit, hbefore⟩

/-- Escaping for a separator that is no backslash and no line break is one pass from left to
right, and so is the escaping of free text with its two separators.  Both leave escaped text. -/
theorem escape_eq_pass {separator : Char} (hseparator : Escape.IsPlainSeparator separator)
    (v : String) :
    (escape separator v).toList = Escape.passAll [separator] v.toList ∧
      (escapeText v).toList = Escape.passAll [',', ';'] v.toList ∧
      IsEscaped [separator] (escape separator v).toList ∧
      IsEscaped [',', ';'] (escapeText v).toList := by
  have hescape : (escape separator v).toList = Escape.passAll [separator] v.toList := by
    rw [toList_escape, Escape.encode_eq_passAll hseparator]
  have htext : (escapeText v).toList = Escape.passAll [',', ';'] v.toList := by
    rw [toList_escapeText, Escape.encodeText_eq_passAll]
  have hbackslash : '\\' ∉ [separator] := by
    simpa using hseparator.ne_backslash.symm
  refine ⟨hescape, htext, ?_, ?_⟩
  · rw [hescape]
    apply isEscaped_passAll hbackslash
    rw [← hescape, toList_escape]
    exact Escape.isUnbroken_encode separator v.toList
  · rw [htext]
    apply isEscaped_passAll (by decide)
    rw [← htext, toList_escapeText]
    exact Escape.isUnbroken_encodeText v.toList

/-- The letter `n` as separator stands behind one backslash, behind three where the value has
one before it, and in the same way where it is written for a line break. -/
theorem escape_eq_pass_letter :
    Escape.IsPlainSeparator 'n' ∧
      escape 'n' "n\\n\\\r\n,\r;\n" = "\\n\\\\\\n\\\\\\n,\\n;\\n" ∧
      Escape.passAll ['n'] "n\\n\\\r\n,\r;\n".toList =
        "\\n\\\\\\n\\\\\\n,\\n;\\n".toList ∧
      escapeText "n\\n\\\r\n,\r;\n" = "n\\\\n\\\\\\n\\,\\n\\;\\n" ∧
      IsEscaped ['n'] "\\n\\\\\\n\\\\\\n,\\n;\\n".toList ∧
      IsEscaped [',', ';'] "n\\\\n\\\\\\n\\,\\n\\;\\n".toList := by
  have hletter : Escape.IsPlainSeparator 'n' := by constructor <;> decide
  have hescape : escape 'n' "n\\n\\\r\n,\r;\n" = "\\n\\\\\\n\\\\\\n,\\n;\\n" := by decide
  have htext : escapeText "n\\n\\\r\n,\r;\n" = "n\\\\n\\\\\\n\\,\\n\\;\\n" := by decide
  obtain ⟨hpass, -, hescaped, hfree⟩ := escape_eq_pass hletter "n\\n\\\r\n,\r;\n"
  rw [hescape] at hpass hescaped
  rw [htext] at hfree
  exact ⟨hletter, hescape, hpass.symm, htext, hescaped, hfree⟩

end ContactCard.Text
