import ContactCard.Proofs.Rereading

/-!
# Single texts that are written and read back

A class of single texts writes every value on one line.  What it reads back of that is settled by
the class and the value alone: escaped texts come back with their line breaks normalised, raw ones
with their line breaks written out, and members without blanks around them besides.  So which
values come back as they were differs from class to class.
-/

namespace ContactCard

open Text (IsUnbroken escapeBreaks escapeText normalize strip)

/-! ## What comes back -/

theorem Text.isUnbroken_escapeBreaks (s : String) : IsUnbroken (escapeBreaks s).toList := by
  rw [toList_escapeBreaks]
  exact Escape.isUnbroken_encodeBreaks s.toList

theorem Text.escapeBreaks_eq_self_iff (s : String) :
    escapeBreaks s = s ↔ IsUnbroken s.toList := by
  rw [← String.toList_inj, toList_escapeBreaks]
  exact Escape.encodeBreaks_eq_self_iff s.toList

theorem Text.strip_escapeBreaks_eq_self_iff (s : String) :
    strip (escapeBreaks s) = s ↔ IsUnbroken s.toList ∧ strip s = s := by
  constructor
  · intro hs
    have hunbroken : IsUnbroken s.toList := by
      rw [← hs, toList_strip]
      exact (isUnbroken_escapeBreaks s).subset fun _ => mem_of_mem_stripChars
    rw [escapeBreaks_of_isUnbroken hunbroken] at hs
    exact ⟨hunbroken, hs⟩
  · rintro ⟨hunbroken, hs⟩
    rw [escapeBreaks_of_isUnbroken hunbroken, hs]

namespace TextClass

/-- What a class reads back of a value that it has written. -/
def restored : TextClass → String → String
  | .member, s => strip (escapeBreaks s)
  | .raw, s => escapeBreaks s
  | .plain, s | .formattedName, s | .mailer, s | .kind, s | .hooked _, s => normalize s

/-- The values that a class reads back as they were. -/
def Keeps : TextClass → String → Prop
  | .member, s => IsUnbroken s.toList ∧ strip s = s
  | .raw, s => IsUnbroken s.toList
  | .plain, s | .formattedName, s | .mailer, s | .kind, s | .hooked _, s => '\r' ∉ s.toList

theorem isUnbroken_encode (cls : TextClass) (s : String) : IsUnbroken (cls.encode s).toList := by
  have htext : IsUnbroken (escapeText s).toList := by
    rw [Text.toList_escapeText]
    exact Text.Escape.isUnbroken_encodeText s.toList
  cases cls with
  | member => exact Text.isUnbroken_escapeBreaks s
  | raw => exact Text.isUnbroken_escapeBreaks s
  | plain => exact htext
  | formattedName => exact htext
  | mailer => exact htext
  | kind => exact htext
  | hooked hooks => exact htext

theorem decode_encode (cls : TextClass) (s : String) :
    cls.decode (cls.encode s) = cls.restored s := by
  have htext := Text.unescape_escapeText s
  cases cls with
  | member => rfl
  | raw => rfl
  | plain => exact htext
  | formattedName => exact htext
  | mailer => exact htext
  | kind => exact htext
  | hooked hooks => exact htext

theorem restored_eq_self_iff (cls : TextClass) (s : String) :
    cls.restored s = s ↔ cls.Keeps s := by
  have htext := Text.normalize_eq_self_iff s
  cases cls with
  | member => exact Text.strip_escapeBreaks_eq_self_iff s
  | raw => exact Text.escapeBreaks_eq_self_iff s
  | plain => exact htext
  | formattedName => exact htext
  | mailer => exact htext
  | kind => exact htext
  | hooked hooks => exact htext

end TextClass

/-! ## Properties -/

/-- A property with a single text. -/
def Property.holding (p : Property) (cls : TextClass) (value : Option String) : Property :=
  { p with body := .text cls value }

/-- A single text is written on one line, in every mode the same, and any property of its class
reads it back as the class and the text have it, whatever the property held before. -/
theorem Property.readText_text (cls : TextClass) (s : String) :
    ∃ written, IsUnbroken written.toList ∧
      (∀ (p : Property) (mode : Mode), ((p.holding cls (some s)).text mode).result = .ok written) ∧
      (∀ (q : Property) (held : Option String),
        (q.holding cls held).readText written = q.holding cls (some (cls.restored s))) ∧
      (cls.restored s = s ↔ cls.Keeps s) := by
  refine ⟨cls.encode s, cls.isUnbroken_encode s, ?_, ?_, cls.restored_eq_self_iff s⟩
  · intro p mode
    exact Property.text_of_hasValue (p := p.holding cls (some s)) rfl mode
  · intro q held
    have hread : (q.holding cls held).readText (cls.encode s) =
        q.holding cls (some (cls.decode (cls.encode s))) := rfl
    rw [hread, cls.decode_encode]

/-- A raw text shows its line break, a plain one keeps it. -/
example : TextClass.raw.restored "a\nb" = "a\\nb" ∧ TextClass.plain.restored "a\nb" = "a\nb" := by
  decide

end ContactCard
