import ContactCard.Proofs.ReadBack
import ContactCard.Proofs.Text.Fields

/-!
# Text that is read, written and read again

Whatever text without line breaks a property is read from, stray backslashes, empty fields and
blanks around them included, its value can be written, and what is written is read as the same
value.  So writing what was read changes a text at most once.
-/

namespace ContactCard

open Text (IsUnbroken escapeBreaks escapeText joinFields splitFields strip unescape)

/-! ## Single texts -/

theorem Text.escapeBreaks_of_isUnbroken {s : String} (hs : IsUnbroken s.toList) :
    escapeBreaks s = s := by
  rw [← String.toList_inj, toList_escapeBreaks]
  exact (Escape.encodeBreaks_eq_self_iff s.toList).2 hs

theorem Text.unescape_escapeText (s : String) : unescape (escapeText s) = normalize s := by
  rw [← String.toList_inj, toList_unescape, toList_escapeText, toList_normalize]
  exact Escape.decode_encodeText s.toList

theorem Text.cr_not_mem_unescape {s : String} (hs : IsUnbroken s.toList) :
    '\r' ∉ (unescape s).toList := by
  rw [toList_unescape]
  intro hcr
  rcases Escape.mem_decode hcr with hmem | hlf
  · exact (hs '\r' hmem).1 rfl
  · exact absurd hlf (by decide)

/-- Every class of texts reads what it writes of a value that it has read before. -/
theorem TextClass.decode_encode_decode (cls : TextClass) {s : String} (hs : IsUnbroken s.toList) :
    cls.decode (cls.encode (cls.decode s)) = cls.decode s := by
  have hunescape : unescape (escapeText (unescape s)) = unescape s := by
    rw [Text.unescape_escapeText, Text.normalize_eq_self_iff]
    exact Text.cr_not_mem_unescape hs
  have hstrip : IsUnbroken (strip s).toList := by
    rw [Text.toList_strip]
    exact hs.subset fun _ => Text.mem_of_mem_stripChars
  cases cls with
  | member =>
      calc strip (escapeBreaks (strip s))
          = strip (strip s) := by rw [Text.escapeBreaks_of_isUnbroken hstrip]
        _ = strip s := Text.strip_strip s
  | raw => exact Text.escapeBreaks_of_isUnbroken hs
  | plain => exact hunescape
  | formattedName => exact hunescape
  | mailer => exact hunescape
  | kind => exact hunescape
  | hooked hooks => exact hunescape

/-! ## Lists -/

/-- What stands in a field has no CR and no blanks around it. -/
theorem Text.of_mem_splitFields {separator : Char} {s value : String}
    (hs : IsUnbroken s.toList) (hvalue : value ∈ splitFields separator true true s) :
    '\r' ∉ value.toList ∧ strip value = value := by
  rw [splitFields, Fields.split, List.map_map] at hvalue
  obtain ⟨field, hfield, rfl⟩ := List.mem_map.1 hvalue
  have hunbroken : IsUnbroken (String.ofList field).toList := by
    rw [String.toList_ofList]
    exact hs.subset (Fields.subset_of_mem_cut hfield)
  have hstripped : String.ofList (stripChars (Escape.decode field)) =
      strip (unescape (.ofList field)) := by
    simp [strip]
  simp only [Function.comp_apply, if_true, hstripped]
  constructor
  · rw [toList_strip]
    exact fun hcr => cr_not_mem_unescape hunbroken (mem_of_mem_stripChars hcr)
  · exact strip_strip _

theorem Text.splitFields_ne_nil (separator : Char) (s : String) :
    splitFields separator true true s ≠ [] := by
  simp [splitFields, Fields.split, Fields.cut_ne_nil]

/-- The values of a text, joined, are the values of what comes out. -/
theorem Text.splitFields_joinFields_splitFields {separator : Char}
    (hseparator : separator ∉ ['\\', 'n', 'N', '\r', '\n']) {s : String}
    (hs : IsUnbroken s.toList) :
    splitFields separator true true (joinFields separator (splitFields separator true true s)) =
      splitFields separator true true s := by
  rw [splitFields_joinFields_eq (isSeparator_of_not_mem hseparator) (splitFields_ne_nil _ s)]
  conv_rhs => rw [← List.map_id (splitFields separator true true s)]
  apply List.map_congr_left
  intro value hvalue
  exact (strip_normalize_eq_self_iff value).2 (of_mem_splitFields hs hvalue)

/-! ## Properties -/

/-- The separator of a list. -/
def Property.separator? (p : Property) : Option Char :=
  match p.body with
  | .text .. => none
  | .list _ separator _ => some separator

theorem Property.hasValue_readText (p : Property) (s : String) :
    (p.readText s).hasValue = true := by
  obtain ⟨name, group, parameters, body⟩ := p
  cases body <;> rfl

/-- A property that is read from text without line breaks can be written, and every property of
its class and with its separator reads the same value from what is written, whatever it held
before.  Written once more, the text stays as it is. -/
theorem Property.readText_text_readText {p : Property}
    (hseparator : ∀ separator, p.separator? = some separator →
      separator ∉ ['\\', 'n', 'N', '\r', '\n'])
    {s : String} (hs : IsUnbroken s.toList) :
    ∃ written, (∀ mode, ((p.readText s).text mode).result = .ok written) ∧
      ∀ q : Property, q.SameClass p → q.separator? = p.separator? →
        q.readText written = q.withValueOf (p.readText s) ∧
        ∀ mode, ((q.readText written).text mode).result = .ok written := by
  refine ⟨(p.readText s).plainValue,
    Property.text_of_hasValue (p.hasValue_readText s), fun q hclass hsame => ?_⟩
  have hread : q.readText (p.readText s).plainValue = q.withValueOf (p.readText s) ∧
      (q.readText (p.readText s).plainValue).plainValue = (p.readText s).plainValue := by
    obtain ⟨cls, held, value, hq, hp⟩ | ⟨cls, separator, held, other, values, hq, hp⟩ :=
      hclass.cases
    · have hdecode := cls.decode_encode_decode hs
      simp [Property.readText, Property.plainValue, Property.withValueOf, Property.setValue,
        hp, hq, hdecode]
    · obtain rfl : separator = other := by
        simpa [Property.separator?, hp, hq] using hsame
      have hsplit := Text.splitFields_joinFields_splitFields
        (hseparator separator (by simp [Property.separator?, hp])) hs
      simp [Property.readText, Property.plainValue, Property.withValueOf, Property.setValues,
        hp, hq, hsplit]
  refine ⟨hread.1, fun mode => ?_⟩
  rw [Property.text_of_hasValue (q.hasValue_readText _), hread.2]

/-- Nicknames with a needless escape, a line break at the front of a field, an empty field and a
backslash at the end. -/
theorem Property.readText_text_readText_nicknames :
    (∀ separator, (nickname []).separator? = some separator →
      separator ∉ ['\\', 'n', 'N', '\r', '\n']) ∧
    IsUnbroken " a\\x ,\\N b,,c\\".toList ∧
    ((nickname []).readText " a\\x ,\\N b,,c\\").values = ["ax", "b", "", "c\\"] ∧
    ∃ written, (∀ mode, (((nickname []).readText " a\\x ,\\N b,,c\\").text mode).result =
        .ok written) ∧
      ((nickname ["old"]).readText written).values = ["ax", "b", "", "c\\"] := by
  have hseparator : ∀ separator, (nickname []).separator? = some separator →
      separator ∉ ['\\', 'n', 'N', '\r', '\n'] := by
    rintro _ ⟨⟩
    decide
  have hs : IsUnbroken " a\\x ,\\N b,,c\\".toList := by decide
  obtain ⟨written, hwritten, hread⟩ := readText_text_readText hseparator hs
  refine ⟨hseparator, hs, by decide, written, hwritten, ?_⟩
  rw [(hread (nickname ["old"]) rfl rfl).1]
  decide

end ContactCard
