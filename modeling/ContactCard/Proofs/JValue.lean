import ContactCard.JValue
import ContactCard.Proofs.Fold
import ContactCard.Proofs.Spelling

/-!
# Canonical JSON of values

A value is written with its single texts bare and all other groupings as arrays, and reading puts
the bare texts back into groupings of one.  So writing loses nothing, while reading takes more
forms than are written: scalars that are no texts, `null`, and arrays of one.  It refuses only
integers that are too long for a text.  What is written is in canonical form, and just the
canonical forms come back as they were.
-/

namespace ContactCard.JValue

/-- An element in canonical form: a text, or an array of texts that are not just one. -/
def IsCanonicalElement (v : Value) : Prop :=
  (∃ s, v = .text s) ∨ ∃ texts : List String, texts.length ≠ 1 ∧ v = .list (texts.map .text)

def IsCanonical (elements : List Value) : Prop := ∀ v ∈ elements, IsCanonicalElement v

/-! ## Texts of elements -/

/-- The text that a value stands for, an empty one for `null`. -/
def textOf : Value → String
  | .null => ""
  | v => v.spell

/-- The texts of an element: those of its items if it is an array, else its own. -/
def textsOf : Value → List String
  | .list items => items.map textOf
  | v => [textOf v]

theorem string_eq_ok_iff (v : Value) (s : String) :
    string v = .ok s ↔ v.isSpelled = true ∧ s = textOf v := by
  fun_cases string v with
  | case1 => simp [textOf, Value.isSpelled, Scalar.isSpelled, eq_comm]
  | case2 v hnull =>
      rw [textOf.eq_2 v hnull]
      exact Value.spelling_eq_ok_iff

theorem grouping_eq_ok_iff (v : Value) (texts : List String) :
    grouping v = .ok texts ↔ v.isSpelled = true ∧ texts = textsOf v := by
  fun_cases grouping v with
  | case1 items =>
      rw [mapM_eq_ok_iff string_eq_ok_iff, Value.isSpelled_list_iff, textsOf]
  | case2 v hlist =>
      rw [textsOf.eq_2 v hlist]
      change (string v >>= fun s => .ok [s]) = .ok texts ↔ _
      simp only [bind_eq_ok, string_eq_ok_iff]
      constructor
      · rintro ⟨s, ⟨hv, rfl⟩, htexts⟩
        exact ⟨hv, (Except.ok.inj htexts).symm⟩
      · rintro ⟨hv, rfl⟩
        exact ⟨_, ⟨hv, rfl⟩, rfl⟩

/-- Elements are read by their texts, if they all have one. -/
theorem ofJson_eq_ok_iff {dataType : String} {raw : List Value} {v : JValue} :
    ofJson dataType raw = .ok v ↔
      (∀ element ∈ raw, element.isSpelled = true) ∧ v = ⟨dataType, raw.map textsOf⟩ := by
  change (raw.mapM grouping >>= fun groupings => .ok ⟨dataType, groupings⟩) = .ok v ↔ _
  simp only [bind_eq_ok, mapM_eq_ok_iff grouping_eq_ok_iff]
  constructor
  · rintro ⟨groupings, ⟨hraw, rfl⟩, hv⟩
    exact ⟨hraw, (Except.ok.inj hv).symm⟩
  · rintro ⟨hraw, rfl⟩
    exact ⟨_, ⟨hraw, rfl⟩, rfl⟩

theorem exists_ofJson_iff {dataType : String} {raw : List Value} :
    (∃ v, ofJson dataType raw = .ok v) ↔ ∀ element ∈ raw, element.isSpelled = true := by
  simp only [ofJson_eq_ok_iff, exists_and_left, exists_eq, and_true]

/-! ## Groupings -/

theorem map_textOf_texts (texts : List String) : (texts.map Value.text).map textOf = texts := by
  rw [List.map_map]
  exact List.map_id texts

theorem groupingJson_of_length_ne_one {texts : List String} (htexts : texts.length ≠ 1) :
    groupingJson texts = .list (texts.map .text) := by
  rw [groupingJson.eq_def]
  split
  · exact absurd rfl htexts
  · rfl

theorem textsOf_groupingJson (texts : List String) : textsOf (groupingJson texts) = texts := by
  by_cases htexts : texts.length = 1
  · obtain ⟨s, rfl⟩ := List.length_eq_one_iff.1 htexts
    rfl
  · rw [groupingJson_of_length_ne_one htexts]
    exact map_textOf_texts texts

theorem isCanonicalElement_groupingJson (texts : List String) :
    IsCanonicalElement (groupingJson texts) := by
  by_cases htexts : texts.length = 1
  · obtain ⟨s, rfl⟩ := List.length_eq_one_iff.1 htexts
    exact .inl ⟨s, rfl⟩
  · exact .inr ⟨texts, htexts, groupingJson_of_length_ne_one htexts⟩

theorem groupingJson_textsOf_eq_self_iff (v : Value) :
    groupingJson (textsOf v) = v ↔ IsCanonicalElement v := by
  constructor
  · intro hself
    rw [← hself]
    exact isCanonicalElement_groupingJson (textsOf v)
  · rintro (⟨s, rfl⟩ | ⟨texts, htexts, rfl⟩)
    · rfl
    · rw [textsOf, map_textOf_texts, groupingJson_of_length_ne_one htexts]

/-- Texts are never too long. -/
theorem IsCanonicalElement.isSpelled {v : Value} (hv : IsCanonicalElement v) :
    v.isSpelled = true := by
  rcases hv with ⟨s, rfl⟩ | ⟨texts, -, rfl⟩
  · rfl
  · rw [Value.isSpelled_list_iff, List.forall_mem_map]
    exact fun s _ => rfl

/-! ## Values -/

theorem isCanonical_toJson (v : JValue) : IsCanonical v.toJson := by
  intro element helement
  obtain ⟨texts, -, rfl⟩ := List.mem_map.1 helement
  exact isCanonicalElement_groupingJson texts

theorem ofJson_toJson (v : JValue) : ofJson v.dataType v.toJson = .ok v := by
  have hgroupings : v.toJson.map textsOf = v.groupings := by
    rw [toJson, List.map_map]
    exact (List.map_congr_left fun texts _ => textsOf_groupingJson texts).trans (List.map_id _)
  refine ofJson_eq_ok_iff.2 ⟨fun element helement => ?_, by rw [hgroupings]⟩
  exact (isCanonical_toJson v element helement).isSpelled

theorem toJson_eq_self_iff (dataType : String) (raw : List Value) :
    toJson ⟨dataType, raw.map textsOf⟩ = raw ↔ IsCanonical raw := by
  constructor
  · intro hself
    rw [← hself]
    exact isCanonical_toJson _
  · intro hraw
    rw [toJson, List.map_map]
    have hsame : ∀ v ∈ raw, groupingJson (textsOf v) = v :=
      fun v hv => (groupingJson_textsOf_eq_self_iff v).2 (hraw v hv)
    exact (List.map_congr_left hsame).trans (List.map_id raw)

/-- A value comes back from its JSON.  Elements are read exactly where no integer in them is too
long, and by their texts.  The JSON of what they are read as is canonical and reads as the same,
and it is those elements just if they were canonical. -/
theorem toJson_canonicalizes :
    (∀ v : JValue, ofJson v.dataType v.toJson = .ok v) ∧
      ∀ (dataType : String) (raw : List Value),
        ((∃ v, ofJson dataType raw = .ok v) ↔ ∀ element ∈ raw, element.isSpelled = true) ∧
        ∀ v, ofJson dataType raw = .ok v →
          v = ⟨dataType, raw.map textsOf⟩ ∧ IsCanonical v.toJson ∧
            ofJson dataType v.toJson = .ok v ∧ (v.toJson = raw ↔ IsCanonical raw) := by
  refine ⟨ofJson_toJson, fun dataType raw => ⟨exists_ofJson_iff, fun v hv => ?_⟩⟩
  obtain ⟨-, rfl⟩ := ofJson_eq_ok_iff.1 hv
  exact ⟨rfl, isCanonical_toJson _, ofJson_toJson ⟨dataType, _⟩, toJson_eq_self_iff dataType raw⟩

/-- Elements of several forms that are not canonical. -/
def looseElements : List Value := [.list [.text "Anna"], .int 7, .null, .list []]

/-- An array of one and a number are written as bare texts, and `null` as the empty one. -/
theorem toJson_canonicalizes_looseElements :
    ∃ v, ofJson "text" looseElements = .ok v ∧
      v.toJson = [.text "Anna", .text "7", .text "", .list []] ∧ v.toJson ≠ looseElements ∧
      IsCanonical v.toJson ∧ ofJson "text" v.toJson = .ok v := by
  have hspelled : ∀ element ∈ looseElements, element.isSpelled = true := by decide +kernel
  have hread : ofJson "text" looseElements = .ok ⟨"text", [["Anna"], ["7"], [""], []]⟩ :=
    ofJson_eq_ok_iff.2 ⟨hspelled, rfl⟩
  obtain ⟨-, hcanonical, hagain, -⟩ := (toJson_canonicalizes.2 "text" looseElements).2 _ hread
  exact ⟨_, hread, rfl, nofun, hcanonical, hagain⟩

/-- The least integer that is too long for a text. -/
def longInteger : Value := .int (Nat.pow 10 Integer.maxDigits)

/-- An integer that is too long is read as no value at all. -/
theorem not_exists_ofJson_longInteger : ¬∃ v, ofJson "text" [longInteger] = .ok v := by
  have hlong : longInteger.isSpelled = false := by decide +kernel
  rw [exists_ofJson_iff, List.forall_mem_singleton, hlong]
  decide

end ContactCard.JValue
