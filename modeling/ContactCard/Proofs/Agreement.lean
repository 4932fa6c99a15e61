import ContactCard.Proofs.XCard
import Mathlib.Data.List.Basic

/-!
# Agreement of the three writers

Plain text, jCard and xCard are written by separate loops.  On a card whose
groups are absent or named, all three emit the same properties in the same order
and under the same groups, the value in xCard is the plain-text value with the
characters deleted that XML cannot hold, and the warnings of xCard are those of
the plain text with the warnings on such characters among them.
-/

namespace ContactCard

/-! ## Warnings on deleted characters -/

namespace XCard

/-- A warning that says of some name that characters were deleted. -/
def IsIllegalWarning (warning : String) : Prop := ∃ name, warning = illegalWarning name

/-- The last characters of a warning tell its kind. -/
def ending (warning : String) : List Char := warning.toList.reverse.take 4

theorem ending_append {tail : String} (hlength : 4 ≤ tail.toList.length) (head : String) :
    ending (head ++ tail) = ending tail := by
  have hreverse : 4 ≤ tail.toList.reverse.length := by simpa using hlength
  rw [ending, String.toList_append, List.reverse_append, List.take_append_of_le_length hreverse,
    ending]

theorem isIllegalWarning_iff (warning : String) :
    IsIllegalWarning warning ↔
      " type contains characters that are not allowed in XML.  They were removed.".toList <:+
        warning.toList := by
  constructor
  · rintro ⟨name, rfl⟩
    exact ⟨name.toList, by simp [illegalWarning]⟩
  · rintro ⟨name, hname⟩
    refine ⟨String.ofList name, ?_⟩
    rw [← String.toList_inj, ← hname]
    simp [illegalWarning]

instance (warning : String) : Decidable (IsIllegalWarning warning) :=
  decidable_of_iff _ (isIllegalWarning_iff warning).symm

theorem IsIllegalWarning.ending {warning : String} (hwarning : IsIllegalWarning warning) :
    XCard.ending warning = ['.', 'd', 'e', 'v'] := by
  obtain ⟨name, rfl⟩ := hwarning
  rw [illegalWarning, ending_append (by decide)]
  decide

theorem not_isIllegalWarning_append {tail : String} (hlength : 4 ≤ tail.toList.length)
    (htail : ending tail ≠ ['.', 'd', 'e', 'v']) (head : String) :
    ¬IsIllegalWarning (head ++ tail) := by
  intro hillegal
  have hending := hillegal.ending
  rw [ending_append hlength] at hending
  exact htail hending

theorem not_isIllegalWarning_nameWarnings (card : Card) (version : Version) :
    ∀ warning ∈ card.nameWarnings version, ¬IsIllegalWarning warning := by
  intro warning hwarning
  rw [Card.nameWarnings] at hwarning
  split at hwarning
  · simp at hwarning
  · obtain rfl := List.mem_singleton.1 hwarning
    exact not_isIllegalWarning_append (by decide) (by decide) _

theorem not_isIllegalWarning_message (reason : Rejection) :
    ¬IsIllegalWarning reason.message := by
  cases reason with
  | unsupported name version supported =>
      exact not_isIllegalWarning_append (by decide) (by decide) _
  | notGroup => decide

theorem not_isIllegalWarning_skipWarning (name : String) :
    ¬IsIllegalWarning (skipWarning name) :=
  not_isIllegalWarning_append (by decide) (by decide) name

end XCard

/-- Hooks that word none of their warnings like those on deleted characters. -/
structure Hooks.WarnApart (hooks : Hooks) : Prop where
  onText : ∀ mode, ∀ warning ∈ hooks.onText mode, ¬XCard.IsIllegalWarning warning
  adjust : ∀ version mode cardSize t,
    ∀ warning ∈ (hooks.adjust version mode cardSize t).warnings, ¬XCard.IsIllegalWarning warning

theorem Hooks.warnApart_noisy : Hooks.noisy.WarnApart := by
  constructor
  · intro mode warning hwarning
    obtain rfl := List.mem_singleton.1 hwarning
    cases mode <;> decide
  · intro version mode cardSize t warning hwarning
    cases hwarning

theorem Hooks.warnApart_marking : Hooks.marking.WarnApart := by
  constructor
  · intro mode warning hwarning
    cases hwarning
  · intro version mode cardSize t warning hwarning hillegal
    obtain rfl := List.mem_singleton.1 hwarning
    -- The warning ends in a digit of the size of the card, not in a full stop.
    have hdigits : (toString cardSize).toList = Nat.toDigits 10 cardSize := by
      rw [Nat.toString_eq_ofList_toDigits, String.toList_ofList]
    have hlast : (Nat.toDigits 10 cardSize).getLast? = some '.' := by
      have hhead := congrArg List.head? hillegal.ending
      rw [XCard.ending, List.head?_take, if_neg (by decide), List.head?_reverse,
        String.toList_append, hdigits,
        List.getLast?_append_of_ne_nil _ Nat.toDigits_ne_nil] at hhead
      exact hhead
    have hdot := Nat.isDigit_of_mem_toDigits (by omega) (by omega) (List.mem_of_getLast? hlast)
    exact absurd hdot (by decide)

namespace XCard

theorem not_isIllegalWarning_valueNotes {target : Target} {card : Card} {p : Property}
    (hhooks : ∀ hooks value, p.body = .text (.hooked hooks) value → hooks.WarnApart) :
    ∀ warning ∈ PlainText.valueNotes target card p, ¬IsIllegalWarning warning := by
  intro warning hwarning
  by_cases hp : p.IsHooked
  · obtain ⟨hooks, value, hbody⟩ := hp
    have happart := hhooks hooks value hbody
    rcases List.mem_append.1 hwarning with hmem | hmem
    · rw [Card.parameterNotes, Property.writtenParameters, hbody] at hmem
      exact happart.adjust _ _ _ _ warning hmem
    · rw [Property.text, hbody] at hmem
      exact happart.onText _ warning hmem
  · obtain ⟨hparameters, htext, -⟩ :=
      Property.quiet_of_not_isHooked hp target.version target.mode card.size
    simp [PlainText.valueNotes, Card.parameterNotes, hparameters, htext] at hwarning

/-- The writer of plain text says nothing of deleted characters by itself. -/
theorem not_isIllegalWarning_notes {target : Target} {card : Card} {p : Property}
    (hvalue : ∀ warning ∈ PlainText.valueNotes target card p, ¬IsIllegalWarning warning) :
    ∀ warning ∈ PlainText.notes target card p, ¬IsIllegalWarning warning := by
  intro warning hwarning
  rw [PlainText.notes, Card.noted] at hwarning
  cases hreject : card.reject? target.version p with
  | some reason =>
      rw [hreject] at hwarning
      obtain rfl := List.mem_singleton.1 hwarning
      exact not_isIllegalWarning_message reason
  | none =>
      rw [hreject] at hwarning
      cases hhas : p.hasValue with
      | true => exact hvalue warning (by simpa [hhas] using hwarning)
      | false =>
          have hskip : warning ∈ PlainText.valueNotes target card p ++ [skipWarning p.name] := by
            simpa [hhas] using hwarning
          rcases List.mem_append.1 hskip with hskip | hskip
          · exact hvalue warning hskip
          · obtain rfl := List.mem_singleton.1 hskip
            exact not_isIllegalWarning_skipWarning p.name

/-- Without the warnings on deleted characters the notes are those of plain text. -/
theorem filter_notes {target : Target} {card : Card} {p : Property}
    (hvalue : ∀ warning ∈ PlainText.valueNotes target card p, ¬IsIllegalWarning warning) :
    (notes target card p).filter (fun warning => ¬IsIllegalWarning warning) =
      PlainText.notes target card p := by
  have hcleaning : ∀ warning ∈
      (if card.Emits target.version p then cleaningNotes target card p else []),
      IsIllegalWarning warning := by
    intro warning hwarning
    have hmem : warning ∈ cleaningNotes target card p := by
      split at hwarning
      · exact hwarning
      · simp at hwarning
    rw [cleaningNotes] at hmem
    split at hmem
    · simp at hmem
    · exact ⟨p.name, List.mem_singleton.1 hmem⟩
  rw [notes_eq, List.filter_append, List.filter_eq_self.2, List.filter_eq_nil_iff.2,
    List.append_nil]
  · intro warning hwarning
    simpa using hcleaning warning hwarning
  · intro warning hwarning
    simpa using not_isIllegalWarning_notes hvalue warning hwarning

end XCard

/-! ## The three records of a card -/

/-- What the records of one card have in common: every emitted property stands in
all three, in one order and under its group, and the warnings come from the same
notes on the properties. -/
structure Card.WritersAgree (card : Card) (target : Target) (text : Record String)
    (jcard : Record (List JCard.Entry)) (xcard : Record Element) : Prop where
  /-- There is a line for every emitted property, with its group in front, between those that
  frame the card. -/
  lines : text.output = String.join ((["BEGIN:VCARD", "VERSION:" ++ target.version.number] ++
    ((card.emitted target).map fun p =>
      p.groupName?.elim "" (· ++ ".") ++ Text.upper p.name ++
        (card.parametersOf target p).line ++ ":" ++ p.plainValue) ++
    ["END:VCARD"]).map (· ++ "\r\n"))
  /-- There is an entry for every emitted property, from the bucket of its group. -/
  entries : ∃ sections, card.sections target (JCard.writeProperty target card) = .ok sections ∧
    jcard.output = .ofVersion target.version :: sections.placed.map (·.2) ∧
    sections.placed = (card.emitted target).map fun p =>
      (Scalar.ofName? p.groupName?, JCard.entryOf target card (Scalar.ofName? p.groupName?) p)
  /-- In document order there is an element for every emitted property, in the
  group element of its group. -/
  elements : XCard.members xcard.output = (card.emitted target).map fun p =>
    (Scalar.ofName? p.groupName?, XCard.elementOf target card p)
  /-- Group elements are labelled by names and none is empty. -/
  wrappers : ∀ e ∈ XCard.groupElements xcard.output, ∃ name,
    XCard.groupLabel? e = some (.text name) ∧ e.tag = Tag.qualify target.version "group" ∧
      e.children ≠ []
  wrappers_nodup : ((XCard.groupElements xcard.output).map XCard.groupLabel?).Nodup
  /-- There is one for every group that an emitted property is in. -/
  wrapper_iff : ∀ name,
    (∃ e ∈ XCard.groupElements xcard.output, XCard.groupLabel? e = some (.text name)) ↔
      ∃ p ∈ card.emitted target, p.groupName? = some name
  /-- The text of an element is the plain-text value without illegal characters. -/
  values : ∀ p ∈ card.emitted target, (p.text target.mode).result = .ok p.plainValue ∧
    (XCard.elementOf target card p).texts "text" = [Xml.clean p.plainValue]
  textWarnings : text.warnings = card.nameWarnings target.version ++
    (arranged (card.listed target.addGenerator)).flatMap (PlainText.notes target card)
  /-- The warnings on deleted characters come after the others on their property. -/
  xcardWarnings : xcard.warnings = card.nameWarnings target.version ++
    (arranged (card.listed target.addGenerator)).flatMap fun p =>
      PlainText.notes target card p ++
        if card.Emits target.version p then XCard.cleaningNotes target card p else []
  /-- Unless a hook words its own warnings like them, leaving them out gives the
  warnings of the plain text. -/
  filteredWarnings :
    (∀ p ∈ card.properties, ∀ hooks value, p.body = .text (.hooked hooks) value →
      hooks.WarnApart) →
    xcard.warnings.filter (fun warning => ¬XCard.IsIllegalWarning warning) = text.warnings
  /-- Where no hook warns about values, the warnings of jCard are those of the
  plain text. -/
  jcardWarnings :
    (∀ p ∈ card.listed target.addGenerator,
      (p.text target.mode).warnings = [] ∧ p.jValue.warnings = []) →
    jcard.warnings = text.warnings

theorem JCard.notes_eq {target : Target} {card : Card} {p : Property}
    (htext : (p.text target.mode).warnings = []) (hjson : p.jValue.warnings = []) :
    notes target card p = PlainText.notes target card p := by
  simp [notes, PlainText.notes, PlainText.valueNotes, Card.noted, htext, hjson]

/-- Plain text, jCard and xCard agree on every card whose groups are absent or
named, for every version and mode and with or without the generator. -/
theorem Card.writersAgree {card : Card}
    (hgroups : ∀ p ∈ card.properties, p.group = .null ∨ ∃ s, s ≠ "" ∧ p.group = .text s)
    (target : Target) :
    ∃ text jcard xcard, PlainText.record target card = .ok text ∧
      JCard.record target card = .ok jcard ∧ XCard.record target card = .ok xcard ∧
      card.WritersAgree target text jcard xcard := by
  have hnamed : ∀ p ∈ card.properties, p.HasNamedGroup := by
    intro p hp
    rcases hgroups p hp with h | ⟨s, -, h⟩
    · exact .inl h
    · exact .inr ⟨s, h⟩
  have hlisted : ∀ p ∈ card.listed target.addGenerator,
      p.group = .null ∨ ∃ s, s ≠ "" ∧ p.group = .text s := by
    intro p hp
    rcases Card.mem_or_eq_of_mem_listed hp with hmem | rfl
    · exact hgroups p hmem
    · exact .inl rfl
  have hxml := XCard.writesAs target card
  have hjson := JCard.writesAs target card
  have htextWarnings := (PlainText.writesAs target card).warnings_gather (fun _ _ => rfl)
    (PlainText.assemble target.version)
  refine ⟨_, _, _, PlainText.record_eq_byName hnamed target, JCard.record_eq_byName hnamed target,
    XCard.record_eq_byName hnamed target, ?_⟩
  constructor
  case lines =>
    refine (PlainText.assemble_byName_eq_join target card).trans ?_
    congr 4
    apply List.map_congr_left
    intro p hp
    rw [PlainText.filter_groupName? (hlisted p (Card.mem_emitted.1 hp).1)]
  case entries =>
    refine ⟨_, Card.sections_eq_byName hnamed, ?_, hjson.placed_byName⟩
    change JCard.assemble target.version _ = _
    rw [JCard.assemble, Sections.outputs_outcomes]
  case elements => exact XCard.members_assembled target card
  case wrappers => exact fun e he => XCard.groupElement_assembled he
  case wrappers_nodup => exact XCard.nodup_labels_assembled target card
  case wrapper_iff => exact XCard.exists_groupElement_iff target card
  case values =>
    exact fun p hp => ⟨Property.text_of_hasValue (Card.mem_emitted.1 hp).2.2.2 _,
      XCard.texts_elementOf target card p⟩
  case textWarnings => exact htextWarnings
  case xcardWarnings => exact hxml.warnings_gather (fun p _ => XCard.notes_eq target card p) _
  case filteredWarnings =>
    intro hhooks
    have hvalues : ∀ p ∈ card.listed target.addGenerator,
        ∀ warning ∈ PlainText.valueNotes target card p, ¬XCard.IsIllegalWarning warning := by
      intro p hp
      apply XCard.not_isIllegalWarning_valueNotes
      rcases Card.mem_or_eq_of_mem_listed hp with hmem | rfl
      · exact hhooks p hmem
      · intro hooks value hbody
        exact absurd ⟨hooks, value, hbody⟩ Property.not_isHooked_generatorProperty
    rw [hxml.warnings_gather (fun _ _ => rfl), htextWarnings, List.filter_append,
      List.filter_flatMap, List.filter_eq_self.2]
    · congr 1
      apply List.flatMap_congr
      intro p hp
      exact XCard.filter_notes (hvalues p (mem_arranged.1 hp))
    · intro warning hwarning
      simpa using XCard.not_isIllegalWarning_nameWarnings card target.version warning hwarning
  case jcardWarnings =>
    intro hsilent
    rw [htextWarnings]
    apply hjson.warnings_gather
    intro p hp
    obtain ⟨hnoText, hnoJson⟩ := hsilent p hp
    exact JCard.notes_eq hnoText hnoJson

/-- Properties in two groups, some with hooks, one with a character to delete and one
that may not stand on the card. -/
def hookedCard : Card where
  standard := [
    .formattedName (some "Ann"),
    { Property.hooked .noisy "NOTE" (some "a\x01b") with group := .text "home" },
    { Property.member (some "urn:x") with group := .text "work" },
    { Property.hooked .marking "TITLE" (some "t") with group := .text "home" }]

/-- The signature of the generator is ungrouped and so comes before both groups, and
the group of the member has no element. -/
theorem writersAgree_hookedCard :
    (∀ p ∈ hookedCard.properties, p.group = .null ∨ ∃ s, s ≠ "" ∧ p.group = .text s) ∧
      (hookedCard.emitted {}).map (·.name) = ["FN", "X-GENERATOR", "NOTE", "TITLE"] ∧
      ∃ text jcard xcard, PlainText.record {} hookedCard = .ok text ∧
        JCard.record {} hookedCard = .ok jcard ∧ XCard.record {} hookedCard = .ok xcard ∧
        hookedCard.WritersAgree {} text jcard xcard ∧
        xcard.warnings.filter (fun warning => ¬XCard.IsIllegalWarning warning) =
          text.warnings := by
  have hgroups : ∀ p ∈ hookedCard.properties,
      p.group = .null ∨ ∃ s, s ≠ "" ∧ p.group = .text s := by
    simp [hookedCard, Card.properties, Roster.members, Roster.allExtended, Property.formattedName,
      Property.hooked, Property.member]
  have hhooks : ∀ p ∈ hookedCard.properties, ∀ hooks value,
      p.body = .text (.hooked hooks) value → hooks.WarnApart := by
    intro p hp hooks value hbody
    simp only [hookedCard, Card.properties, Roster.members, Roster.allExtended,
      List.flatMap_nil, List.append_nil, List.mem_cons, List.not_mem_nil, or_false] at hp
    rcases hp with rfl | rfl | rfl | rfl <;>
      simp [Property.formattedName, Property.hooked, Property.member] at hbody
    · exact hbody.1 ▸ Hooks.warnApart_noisy
    · exact hbody.1 ▸ Hooks.warnApart_marking
  obtain ⟨text, jcard, xcard, htext, hjcard, hxcard, hagree⟩ := Card.writersAgree hgroups {}
  exact ⟨hgroups, by decide, text, jcard, xcard, htext, hjcard, hxcard, hagree,
    hagree.filteredWarnings hhooks⟩

end ContactCard
