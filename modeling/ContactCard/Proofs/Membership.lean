import ContactCard.Proofs.Description
import ContactCard.Proofs.XCard

/-!
# Members and their group

A member is written only on a card that stands for a group.  What the rule looks at is the kind
of the card, not what becomes of it: before version 4.0 the kind is dropped, while an extended
member, which every version supports, is written.  So the record of a group has a kind beside
its members in version 4.0, and before it only where an extended property says so as well.
-/

namespace ContactCard

/-- A kind that says that the card stands for a group, blanks and case aside. -/
def Property.SaysGroup (p : Property) : Prop :=
  p.name = "KIND" ∧ ∃ value, p.value? = some value ∧ Text.lower (Text.strip value) = "group"

instance (p : Property) : Decidable p.SaysGroup :=
  decidable_of_iff (p.name = "KIND" ∧ p.means "group" = true) (by
    simp [Property.SaysGroup, Property.means, Option.any_eq_true])

theorem Property.SaysGroup.name_ne_member {p : Property} (hp : p.SaysGroup) :
    Text.upper p.name ≠ "MEMBER" := by
  rw [hp.1]
  decide

theorem Property.SaysGroup.hasValue {p : Property} (hp : p.SaysGroup) : p.hasValue = true := by
  obtain ⟨-, value, hvalue, -⟩ := hp
  obtain ⟨name, group, parameters, body⟩ := p
  cases body with
  | text cls text => exact Option.isSome_iff_exists.2 ⟨value, hvalue⟩
  | list cls separator values => cases hvalue

theorem Property.SaysGroup.emits_iff {p : Property} (hp : p.SaysGroup) (card : Card)
    (version : Version) : card.Emits version p ↔ version ∈ p.supportedVersions :=
  ⟨And.left, fun hversion => ⟨hversion, fun h => absurd h hp.name_ne_member, hp.hasValue⟩⟩

/-! ## Which kinds a version supports -/

theorem Property.mem_supportedVersions_of_isKind {p : Property} (hp : p.isKind = true)
    (version : Version) : version ∈ p.supportedVersions ↔ version = .v40 := by
  obtain ⟨name, group, parameters, body⟩ := p
  cases body with
  | text cls value =>
      cases cls with
      | kind => exact List.mem_singleton
      | _ => cases hp
  | list cls separator values => cases hp

/-- A standard property that is described is called a kind just if it is of that class. -/
theorem Card.IsBuilt.name_eq_kind_iff {card : Card} (hcard : card.IsBuilt) {p : Property}
    (hp : p ∈ card.standard) : p.name = "KIND" ↔ p.isKind = true := by
  obtain ⟨made, hmade, group, parameters, rfl⟩ := hcard.standard p hp
  cases hmade with
  | kind value => exact ⟨fun _ => rfl, fun _ => rfl⟩
  | formattedName value => simp [Property.formattedName, Property.isKind]
  | mailer value => simp [Property.mailer, Property.isKind]
  | member uri => simp [Property.member, Property.isKind]
  | nickname values => simp [Property.nickname, Property.isKind]
  | categories values => simp [Property.categories, Property.isKind]
  | organization values => simp [Property.organization, Property.isKind]

theorem Card.IsBuilt.mem_supportedVersions {card : Card} (hcard : card.IsBuilt) {p : Property}
    (hp : p ∈ card.allExtended) (version : Version) : version ∈ p.supportedVersions := by
  obtain ⟨name, value, group, parameters, rfl⟩ := hcard.extended p hp
  have hall : version ∈ Version.all := by cases version <;> decide
  exact hall

theorem Card.StandsForGroup.exists_saysGroup {card : Card} (hgroup : card.StandsForGroup)
    (hcard : card.IsBuilt) : ∃ p ∈ card.standard, p.SaysGroup := by
  obtain ⟨kind, value, hfind, hvalue, hgroupKind⟩ := hgroup
  have hmem := List.mem_of_find?_eq_some hfind
  exact ⟨kind, hmem, (hcard.name_eq_kind_iff hmem).2 (List.find?_some hfind), value, hvalue,
    hgroupKind⟩

/-- What is emitted of a group says so in version 4.0, and before it just if an extended
property does. -/
theorem Card.IsBuilt.emits_saysGroup_iff {card : Card} (hcard : card.IsBuilt)
    (hgroup : card.StandsForGroup) (target : Target) :
    (∃ p ∈ card.emitted target, p.SaysGroup) ↔
      target.version = .v40 ∨ ∃ p ∈ card.allExtended, p.SaysGroup := by
  have hemitted {p : Property} (hp : p ∈ card.properties) (hgroupKind : p.SaysGroup) :
      p ∈ card.emitted target ↔ target.version ∈ p.supportedVersions := by
    rw [Card.mem_emitted, hgroupKind.emits_iff]
    exact and_iff_right (List.mem_append_left _ hp)
  constructor
  · rintro ⟨p, hp, hgroupKind⟩
    rcases Card.mem_or_eq_of_mem_listed (Card.mem_emitted.1 hp).1 with hmem | rfl
    · rcases List.mem_append.1 hmem with hstandard | hextended
      · have hkind := (hcard.name_eq_kind_iff hstandard).1 hgroupKind.1
        have hversion := (hemitted hmem hgroupKind).1 hp
        exact .inl ((Property.mem_supportedVersions_of_isKind hkind _).1 hversion)
      · exact .inr ⟨p, hextended, hgroupKind⟩
    · exact absurd hgroupKind.1 (by decide)
  · rintro (hversion | ⟨p, hp, hgroupKind⟩)
    · obtain ⟨p, hp, hgroupKind⟩ := hgroup.exists_saysGroup hcard
      have hkind := (hcard.name_eq_kind_iff hp).1 hgroupKind.1
      exact ⟨p, (hemitted (List.mem_append_left _ hp) hgroupKind).2
        ((Property.mem_supportedVersions_of_isKind hkind _).2 hversion), hgroupKind⟩
    · exact ⟨p, (hemitted (List.mem_append_right _ hp) hgroupKind).2
        (hcard.mem_supportedVersions hp _), hgroupKind⟩

/-! ## Records with members -/

/-- What the three records of a card tell of its members. -/
structure Card.TellsMembers (card : Card) (target : Target) (text : Record String)
    (jcard : Record (List JCard.Entry)) (xcard : Record Element) : Prop where
  lines : text.output = String.join ((["BEGIN:VCARD", "VERSION:" ++ target.version.number] ++
    ((card.emitted target).map fun p =>
      (p.groupName?.filter (· ≠ "")).elim "" (· ++ ".") ++ Text.upper p.name ++
        (card.parametersOf target p).line ++ ":" ++ p.plainValue) ++
    ["END:VCARD"]).map (· ++ "\r\n"))
  entries : jcard.output = .ofVersion target.version :: (card.emitted target).map fun p =>
    JCard.entryOf target card (Scalar.ofName? p.groupName?) p
  elements : XCard.members xcard.output = (card.emitted target).map fun p =>
    (Scalar.ofName? p.groupName?, XCard.elementOf target card p)
  standsForGroup : ∀ p ∈ card.emitted target, Text.upper p.name = "MEMBER" → card.StandsForGroup
  saysGroup_iff : (∃ p ∈ card.emitted target, Text.upper p.name = "MEMBER") →
    ((∃ p ∈ card.emitted target, p.SaysGroup) ↔
      target.version = .v40 ∨ ∃ p ∈ card.allExtended, p.SaysGroup)

/-- A described card with members in a record stands for a group, and the record says so in
version 4.0, and before it just if an extended property does. -/
theorem Card.tellsMembers {v : Value} {card : Card} (hcard : Card.ofValue v = .ok card)
    (hgroups : ∀ p ∈ card.properties, p.HasNamedGroup) (target : Target) :
    ∃ text jcard xcard, PlainText.record target card = .ok text ∧
      JCard.record target card = .ok jcard ∧ XCard.record target card = .ok xcard ∧
      card.TellsMembers target text jcard xcard := by
  have hstands : ∀ p ∈ card.emitted target, Text.upper p.name = "MEMBER" → card.StandsForGroup :=
    fun p hp => (Card.mem_emitted.1 hp).2.2.1
  refine ⟨_, _, _, PlainText.record_eq_byName hgroups target, JCard.record_eq_byName hgroups target,
    XCard.record_eq_byName hgroups target, ?_⟩
  constructor
  case lines => exact PlainText.assemble_byName_eq_join target card
  case entries => exact JCard.assemble_byName target card
  case elements => exact XCard.members_assembled target card
  case standsForGroup => exact hstands
  case saysGroup_iff =>
    rintro ⟨p, hp, hname⟩
    exact (Card.isBuilt_of_ofValue hcard).emits_saysGroup_iff (hstands p hp hname) target

/-- A group with a member that is an extended property. -/
def groupDescription : Value :=
  .mapping [(.text "fn", .text "Ann"), (.text "kind", .text " Group "),
    (.text "extended",
      .list [.mapping [(.text "name", .text "member"), (.text "value", .text "urn:x")]])]

def groupCard : Card where
  standard := [.formattedName (some "Ann"), .kind (some " Group ")]
  extended := [("MEMBER", [.raw "member" (some "urn:x")])]

theorem ofValue_groupDescription : Card.ofValue groupDescription = .ok groupCard := rfl

theorem hasNamedGroup_groupCard : ∀ p ∈ groupCard.properties, p.HasNamedGroup := by
  simp [groupCard, Card.properties, Roster.members, Roster.allExtended, Property.HasNamedGroup,
    Property.formattedName, Property.kind, Property.raw]

/-- In version 4.0 its record has a kind. -/
theorem tellsMembers_groupCard :
    Card.ofValue groupDescription = .ok groupCard ∧
      (∀ p ∈ groupCard.properties, p.HasNamedGroup) ∧
      (groupCard.emitted {}).map (·.name) = ["FN", "KIND", "MEMBER", "X-GENERATOR"] ∧
      ∃ text jcard xcard, PlainText.record {} groupCard = .ok text ∧
        JCard.record {} groupCard = .ok jcard ∧ XCard.record {} groupCard = .ok xcard ∧
        groupCard.TellsMembers {} text jcard xcard :=
  ⟨ofValue_groupDescription, hasNamedGroup_groupCard, by decide,
    Card.tellsMembers ofValue_groupDescription hasNamedGroup_groupCard {}⟩

/-- In version 3.0 its record has the member and no kind. -/
theorem not_saysGroup_groupCard :
    Card.ofValue groupDescription = .ok groupCard ∧
      (∀ p ∈ groupCard.properties, p.HasNamedGroup) ∧
      (∃ r, PlainText.record { version := .v30, addGenerator := false } groupCard = .ok r ∧
        r.output = "BEGIN:VCARD\r\nVERSION:3.0\r\nFN:Ann\r\nMEMBER:urn:x\r\nEND:VCARD\r\n") ∧
      (∃ p ∈ groupCard.emitted { version := .v30, addGenerator := false },
        Text.upper p.name = "MEMBER") ∧
      ¬∃ p ∈ groupCard.emitted { version := .v30, addGenerator := false }, p.SaysGroup :=
  ⟨ofValue_groupDescription, hasNamedGroup_groupCard, ⟨_, rfl, by decide⟩, by decide, by decide⟩

end ContactCard
