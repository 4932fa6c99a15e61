import ContactCard.Proofs.XCard
import Mathlib.Data.List.Basic

/-!
# Accounting for properties

A property without hooks is either emitted, and then nothing is said about it, or
dropped, and then there is exactly one warning with the first reason for it.  Only
xCard adds a word on deleted characters.  So the warnings of a record can be read
off the card, and nothing is lost in silence.
-/

namespace ContactCard

/-! ## Dropped properties -/

/-- The properties that are not written, group by group. -/
def Card.dropped (card : Card) (target : Target) : List Property :=
  (arranged (card.listed target.addGenerator)).filter fun p => ¬card.Emits target.version p

/-- Why a property is dropped: the version comes first, then the rule on members,
then the missing value. -/
def Card.dropWarning (card : Card) (version : Version) (p : Property) : String :=
  if version ∉ p.supportedVersions then
    (Rejection.unsupported p.name version p.supportedVersions).message
  else if Text.upper p.name = "MEMBER" ∧ ¬card.StandsForGroup then Rejection.notGroup.message
  else skipWarning p.name

/-- The one warning on a property that is dropped, and none on one that is not. -/
def Card.dropNotes (card : Card) (version : Version) (p : Property) : List String :=
  if card.Emits version p then [] else [card.dropWarning version p]

/-- The notes of a writer that has nothing to say by itself. -/
theorem Card.noted_eq_dropNotes {card : Card} {target : Target}
    {onWritten onSkipped : Property → List String} {p : Property} (hwritten : onWritten p = [])
    (hskipped : onSkipped p = []) :
    card.noted target onWritten onSkipped p = card.dropNotes target.version p := by
  simp only [Card.noted, Card.dropNotes, Card.dropWarning, Card.standsForGroup_iff,
    Card.emits_iff, Card.reject?, hwritten, hskipped]
  by_cases hversion : target.version ∈ p.supportedVersions
  · by_cases hmember : Text.upper p.name = "MEMBER" <;>
      cases hgroup : card.isGroup <;> cases hvalue : p.hasValue <;> simp [hversion, hmember]
  · simp [hversion]

theorem PlainText.notes_eq_dropNotes {p : Property} (hp : ¬p.IsHooked) (target : Target)
    (card : Card) : notes target card p = card.dropNotes target.version p := by
  obtain ⟨hparameters, htext, -⟩ :=
    Property.quiet_of_not_isHooked hp target.version target.mode card.size
  have hvalue : valueNotes target card p = [] := by
    rw [valueNotes, Card.parameterNotes, hparameters, htext]
    rfl
  exact Card.noted_eq_dropNotes hvalue hvalue

theorem JCard.notes_eq_dropNotes {p : Property} (hp : ¬p.IsHooked) (target : Target)
    (card : Card) : notes target card p = card.dropNotes target.version p := by
  obtain ⟨hwritten, -, hjson⟩ :=
    Property.quiet_of_not_isHooked hp target.version target.mode card.size
  have hparameters : card.parameterNotes target p = [] := by
    rw [Card.parameterNotes, hwritten]
  refine Card.noted_eq_dropNotes ?_ hparameters
  rw [hparameters, hjson]
  rfl

/-- The warning of xCard on an emitted property that characters are deleted from. -/
def XCard.illegalNotes (p : Property) : List String :=
  if ∃ s ∈ textsOf p.parameters p.plainValue, Xml.clean s ≠ s then [illegalWarning p.name] else []

theorem XCard.notes_eq_dropNotes {p : Property} (hp : ¬p.IsHooked) (target : Target)
    (card : Card) :
    notes target card p = if card.Emits target.version p then illegalNotes p
      else [card.dropWarning target.version p] := by
  have hparameters := Card.parametersOf_of_not_isHooked hp card target
  have hcleaning : cleaningNotes target card p = illegalNotes p := by
    rw [cleaningNotes_eq, hparameters, illegalNotes]
  rw [notes_eq, PlainText.notes_eq_dropNotes hp, Card.dropNotes, hcleaning]
  by_cases hemits : card.Emits target.version p <;> simp [hemits]

/-! ## The advice on the formatted name -/

theorem Card.nameWarnings_eq (card : Card) (version : Version) :
    card.nameWarnings version =
      if ∃ p ∈ card.standard, p.isFormattedName = true then []
      else ["vCard version " ++ version.number ++
        " requires that a formatted name be defined."] := by
  rw [Card.nameWarnings, Card.formattedName?]
  simp only [List.find?_isSome]

/-! ## Records -/

/-- What becomes of each property of a card in its three records. -/
structure Card.Accounted (card : Card) (target : Target) (text : Record String)
    (jcard : Record (List JCard.Entry)) (xcard : Record Element) : Prop where
  /-- There is a line for every emitted property, between those that frame the card.  A group
  is written in front unless it is the empty text. -/
  lines : text.output = String.join ((["BEGIN:VCARD", "VERSION:" ++ target.version.number] ++
    ((card.emitted target).map fun p =>
      (p.groupName?.filter (· ≠ "")).elim "" (· ++ ".") ++ Text.upper p.name ++
        (card.parametersOf target p).line ++ ":" ++ p.plainValue) ++
    ["END:VCARD"]).map (· ++ "\r\n"))
  entries : jcard.output = .ofVersion target.version :: (card.emitted target).map fun p =>
    JCard.entryOf target card (Scalar.ofName? p.groupName?) p
  elements : XCard.members xcard.output = (card.emitted target).map fun p =>
    (Scalar.ofName? p.groupName?, XCard.elementOf target card p)
  /-- A property is emitted exactly when no rule is against it. -/
  emitted_iff : ∀ p, p ∈ card.emitted target ↔
    p ∈ card.listed target.addGenerator ∧ target.version ∈ p.supportedVersions ∧
      (Text.upper p.name = "MEMBER" → card.StandsForGroup) ∧ p.hasValue = true
  /-- The advice comes first, when there is no formatted name. -/
  advice : card.nameWarnings target.version =
    if ∃ p ∈ card.standard, p.isFormattedName = true then []
    else ["vCard version " ++ target.version.number ++
      " requires that a formatted name be defined."]
  /-- Bucket by bucket there is one warning on every dropped property and none on
  an emitted one. -/
  textWarnings : text.warnings = card.nameWarnings target.version ++
    (arranged (card.listed target.addGenerator)).flatMap (card.dropNotes target.version)
  jcardWarnings : jcard.warnings = card.nameWarnings target.version ++
    (arranged (card.listed target.addGenerator)).flatMap (card.dropNotes target.version)
  /-- In xCard there is one on an emitted property too if characters are deleted
  from it. -/
  xcardWarnings : xcard.warnings = card.nameWarnings target.version ++
    (arranged (card.listed target.addGenerator)).flatMap fun p =>
      if card.Emits target.version p then XCard.illegalNotes p
      else [card.dropWarning target.version p]
  /-- Every property is emitted or dropped, as often as it is listed. -/
  partition : (card.emitted target ++ card.dropped target).Perm (card.listed target.addGenerator)
  count : (card.emitted target).length + (card.dropped target).length =
    card.size + if target.addGenerator then 1 else 0

/-- Emitted and dropped properties together are those that are listed. -/
theorem Card.perm_emitted_dropped {card : Card} {target : Target}
    (hlisted : ∀ p ∈ card.listed target.addGenerator, p.HasNamedGroup) :
    (card.emitted target ++ card.dropped target).Perm (card.listed target.addGenerator) := by
  have hsplit := List.filter_append_perm (fun p => decide (card.Emits target.version p))
    (arranged (card.listed target.addGenerator))
  have hdropped : card.dropped target = (arranged (card.listed target.addGenerator)).filter
      fun p => !decide (card.Emits target.version p) := by
    simp only [Card.dropped, decide_not]
  rw [hdropped]
  exact hsplit.trans (perm_arranged hlisted)

/-- Every property of a card without hooks, whose groups are absent or named, is
accounted for in all three formats. -/
theorem Card.accounted {card : Card} (hgroups : ∀ p ∈ card.properties, p.HasNamedGroup)
    (hquiet : ∀ p ∈ card.properties, ¬p.IsHooked) (target : Target) :
    ∃ text jcard xcard, PlainText.record target card = .ok text ∧
      JCard.record target card = .ok jcard ∧ XCard.record target card = .ok xcard ∧
      card.Accounted target text jcard xcard := by
  have hlisted := Card.hasNamedGroup_listed hgroups target.addGenerator
  have hplain : ∀ p ∈ card.listed target.addGenerator, ¬p.IsHooked := by
    intro p hp
    rcases Card.mem_or_eq_of_mem_listed hp with hmem | rfl
    · exact hquiet p hmem
    · exact Property.not_isHooked_generatorProperty
  have hperm := Card.perm_emitted_dropped hlisted
  refine ⟨_, _, _, PlainText.record_eq_byName hgroups target, JCard.record_eq_byName hgroups target,
    XCard.record_eq_byName hgroups target, ?_⟩
  constructor
  case lines => exact PlainText.assemble_byName_eq_join target card
  case entries => exact JCard.assemble_byName target card
  case elements => exact XCard.members_assembled target card
  case emitted_iff => exact fun p => Card.mem_emitted
  case advice => exact card.nameWarnings_eq target.version
  case textWarnings =>
    exact (PlainText.writesAs target card).warnings_gather
      (fun p hp => PlainText.notes_eq_dropNotes (hplain p hp) target card) _
  case jcardWarnings =>
    exact (JCard.writesAs target card).warnings_gather
      (fun p hp => JCard.notes_eq_dropNotes (hplain p hp) target card) _
  case xcardWarnings =>
    exact (XCard.writesAs target card).warnings_gather
      (fun p hp => XCard.notes_eq_dropNotes (hplain p hp) target card) _
  case partition => exact hperm
  case count =>
    have hlength := hperm.length_eq
    rw [List.length_append, Card.length_listed] at hlength
    exact hlength

/-- A card for a group of contacts without a formatted name, with one property of each
fate. -/
def mixedCard : Card where
  standard := [
    .member (some "urn:x"),
    { Property.kind (some " Group ") with group := .text "home" },
    .mailer (some "m"),
    { Property.ofText "NOTE" none with group := .text "home" },
    .ofText "TITLE" (some "a\x01b")]

/-- The kind stands in the last bucket and the member in the first, which is emitted all
the same. -/
theorem accounted_mixedCard :
    (∀ p ∈ mixedCard.properties, p.HasNamedGroup) ∧ (∀ p ∈ mixedCard.properties, ¬p.IsHooked) ∧
      (mixedCard.emitted {}).map (·.name) = ["MEMBER", "TITLE", "X-GENERATOR", "KIND"] ∧
      (mixedCard.dropped {}).map (·.name) = ["MAILER", "NOTE"] ∧
      ∃ text jcard xcard, PlainText.record {} mixedCard = .ok text ∧
        JCard.record {} mixedCard = .ok jcard ∧ XCard.record {} mixedCard = .ok xcard ∧
        mixedCard.Accounted {} text jcard xcard := by
  have hgroups : ∀ p ∈ mixedCard.properties, p.HasNamedGroup := by
    simp [mixedCard, Card.properties, Roster.members, Roster.allExtended, Property.HasNamedGroup,
      Property.kind, Property.member, Property.mailer, Property.ofText]
  have hquiet : ∀ p ∈ mixedCard.properties, ¬p.IsHooked := by
    simp [mixedCard, Card.properties, Roster.members, Roster.allExtended, Property.IsHooked,
      Property.kind, Property.member, Property.mailer, Property.ofText]
  exact ⟨hgroups, hquiet, by decide, by decide, Card.accounted hgroups hquiet {}⟩

end ContactCard
