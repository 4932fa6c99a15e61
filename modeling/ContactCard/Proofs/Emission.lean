import ContactCard.JCard
import ContactCard.PlainText
import ContactCard.XCard
import ContactCard.Proofs.Grouping
import Mathlib.Data.List.Basic

/-!
# What is emitted

A property is emitted when its version and its card admit it and it has a
value.  Each of the three writers turns exactly these properties into output,
one piece for each, and warns about the others.  This module states that law
once for any writer, proves it of the three, and carries it from a single
property to a whole record.
-/

namespace ContactCard

/-! ## Properties without hooks -/

/-- Whether the class of a property has hooks. -/
def Property.IsHooked (p : Property) : Prop := ∃ hooks value, p.body = .text (.hooked hooks) value

theorem Property.not_isHooked_generatorProperty : ¬generatorProperty.IsHooked := by
  rintro ⟨hooks, value, hbody⟩
  simp [generatorProperty, Property.ofText] at hbody

/-- Without hooks the parameters are written as they are, and no writer warns by itself. -/
theorem Property.quiet_of_not_isHooked {p : Property} (hp : ¬p.IsHooked) (version : Version)
    (mode : Mode) (cardSize : Nat) :
    p.writtenParameters version mode cardSize = ⟨p.parameters, []⟩ ∧
      (p.text mode).warnings = [] ∧ p.jValue.warnings = [] := by
  obtain ⟨name, group, parameters, body⟩ := p
  cases body with
  | text cls value =>
      cases cls with
      | hooked hooks => exact absurd ⟨hooks, value, rfl⟩ hp
      | _ => exact ⟨rfl, rfl, rfl⟩
  | list cls separator values => exact ⟨rfl, rfl, rfl⟩

/-! ## Which properties are emitted -/

/-- Whether there is something to write: a list always has a value, a single
text only where it is not missing. -/
def Property.hasValue (p : Property) : Bool :=
  match p.body with
  | .text _ value => value.isSome
  | .list .. => true

/-- The value in plain text, of a property that has one. -/
def Property.plainValue (p : Property) : String :=
  match p.body with
  | .text cls value => cls.encode (value.getD "")
  | .list _ separator values => Text.joinFields separator values

theorem Property.text_of_hasValue {p : Property} (hvalue : p.hasValue = true) (mode : Mode) :
    (p.text mode).result = .ok p.plainValue := by
  obtain ⟨name, group, parameters, body⟩ := p
  cases body with
  | text cls value =>
      cases value with
      | none => simp [Property.hasValue] at hvalue
      | some s => cases cls <;> rfl
  | list cls separator values => rfl

theorem Property.text_of_not_hasValue {p : Property} (hvalue : p.hasValue = false)
    (mode : Mode) : ∃ reason, (p.text mode).result = .error reason := by
  obtain ⟨name, group, parameters, body⟩ := p
  cases body with
  | text cls value =>
      cases value with
      | none => cases cls <;> exact ⟨_, rfl⟩
      | some s => simp [Property.hasValue] at hvalue
  | list cls separator values => simp [Property.hasValue] at hvalue

/-- The first standard kind of the card says that it stands for a group, blanks
and case aside. -/
def Card.StandsForGroup (card : Card) : Prop :=
  ∃ kind value, card.standard.find? Property.isKind = some kind ∧ kind.value? = some value ∧
    Text.lower (Text.strip value) = "group"

theorem Card.standsForGroup_iff (card : Card) : card.StandsForGroup ↔ card.isGroup = true := by
  simp [Card.StandsForGroup, Card.isGroup, Card.kind?, Property.means, Option.any_eq_true]

instance (card : Card) : Decidable card.StandsForGroup :=
  decidable_of_iff _ card.standsForGroup_iff.symm

/-- Whether a property of the card is written for a version: the version supports
it, members stand only on the card of a group, and there is a value. -/
def Card.Emits (card : Card) (version : Version) (p : Property) : Prop :=
  version ∈ p.supportedVersions ∧ (Text.upper p.name = "MEMBER" → card.StandsForGroup) ∧
    p.hasValue = true

instance (card : Card) (version : Version) (p : Property) : Decidable (card.Emits version p) :=
  inferInstanceAs (Decidable (_ ∧ _ ∧ _))

theorem Card.reject?_eq_none_iff (card : Card) (version : Version) (p : Property) :
    card.reject? version p = none ↔
      version ∈ p.supportedVersions ∧ (Text.upper p.name = "MEMBER" → card.StandsForGroup) := by
  rw [Card.standsForGroup_iff, Card.reject?]
  by_cases hversion : version ∈ p.supportedVersions
  · by_cases hmember : Text.upper p.name = "MEMBER" <;>
      cases hgroup : card.isGroup <;> simp [hversion, hmember]
  · simp [hversion]

theorem Card.emits_iff (card : Card) (version : Version) (p : Property) :
    card.Emits version p ↔ card.reject? version p = none ∧ p.hasValue = true := by
  rw [Card.reject?_eq_none_iff, Card.Emits, and_assoc]

/-- The properties that are written, group by group. -/
def Card.emitted (card : Card) (target : Target) : List Property :=
  (arranged (card.listed target.addGenerator)).filter (card.Emits target.version)

theorem Card.mem_emitted {card : Card} {target : Target} {p : Property} :
    p ∈ card.emitted target ↔
      p ∈ card.listed target.addGenerator ∧ card.Emits target.version p := by
  rw [Card.emitted, List.mem_filter, mem_arranged, decide_eq_true_iff]

/-! ## The law of a writer -/

section Writer

variable {α : Type} {card : Card} {target : Target}
variable {write : Scalar → Property → Outcome α} {form : Scalar → Property → α}
variable {notes : Property → List String}

/-- A writer of properties that gives every emitted property its form and none to
the others, and warns by `notes`. -/
structure Card.WritesAs (card : Card) (target : Target) (write : Scalar → Property → Outcome α)
    (form : Scalar → Property → α) (notes : Property → List String) : Prop where
  output? : ∀ label p, (write label p).output? =
    if card.Emits target.version p then some (form label p) else none
  warnings : ∀ label p, (write label p).warnings = notes p

/-- What was written, piece by piece under the label of its bucket. -/
def Sections.placed (sections : Sections α) : List (Scalar × α) :=
  sections.flatMap fun entry => (outputs entry.2).map fun e => (entry.1, e)

theorem Sections.outputs_outcomes (sections : Sections α) :
    outputs sections.outcomes = sections.placed.map (·.2) := by
  rw [Sections.outcomes, Sections.placed, List.map_flatMap, outputs, List.filterMap_flatMap]
  congr 1
  funext entry
  rw [List.map_map]
  exact (List.map_id _).symm

/-- The labels and properties of some buckets that are written. -/
def Card.emittedIn (card : Card) (version : Version) (buckets : Buckets) :
    List (Scalar × Property) :=
  buckets.flatMap fun bucket =>
    (bucket.2.filter (card.Emits version)).map fun p => (bucket.1, p)

theorem Card.snd_emittedIn (card : Card) (version : Version) (buckets : Buckets) :
    (card.emittedIn version buckets).map (·.2) = buckets.members.filter (card.Emits version) := by
  rw [Card.emittedIn, Buckets.members, List.map_flatMap, List.filter_flatMap]
  congr 1
  funext bucket
  rw [List.map_map]
  exact List.map_id _

/-- What is written stands under a label that counts as the same as that of its property. -/
theorem Card.label_of_mem_emittedIn {version : Version} {buckets : Buckets}
    (hbuckets : buckets.AreLabelled) {entry : Scalar × Property}
    (hentry : entry ∈ card.emittedIn version buckets) :
    ∃ own, entry.2.label? = some own ∧ (entry.1 = own ∨ Key.same entry.1 own = true) := by
  obtain ⟨bucket, hbucket, hinside⟩ := List.mem_flatMap.1 hentry
  obtain ⟨p, hp, rfl⟩ := List.mem_map.1 hinside
  exact hbuckets bucket hbucket p (List.mem_filter.1 hp).1

/-- What depends on the label of a property only up to equal labels can be checked property
by property, each with its own group for a label. -/
theorem Card.forall_emittedIn_iff {version : Version} {buckets : Buckets} {ps : List Property}
    (hperm : buckets.members.Perm ps) (hbuckets : buckets.AreLabelled)
    {P : Scalar → Property → Prop} {Q : Property → Prop}
    (hentry : ∀ {label own : Scalar}, ∀ p ∈ ps, p.group = .scalar own →
      label = own ∨ Key.same label own = true → (P label p ↔ Q p)) :
    (∀ entry ∈ card.emittedIn version buckets, P entry.1 entry.2) ↔
      ∀ p ∈ ps, card.Emits version p → Q p := by
  have hlabels : ∀ entry ∈ card.emittedIn version buckets, (P entry.1 entry.2 ↔ Q entry.2) := by
    intro entry hmem
    obtain ⟨own, hown, hlabel⟩ := Card.label_of_mem_emittedIn hbuckets hmem
    have hp := List.mem_map_of_mem (f := (·.2)) hmem
    rw [Card.snd_emittedIn, List.mem_filter, hperm.mem_iff] at hp
    exact hentry entry.2 hp.1 (Property.label?_eq_some_iff.1 hown) hlabel
  calc (∀ entry ∈ card.emittedIn version buckets, P entry.1 entry.2)
      ↔ ∀ entry ∈ card.emittedIn version buckets, Q entry.2 := forall₂_congr hlabels
    _ ↔ ∀ p ∈ (card.emittedIn version buckets).map (·.2), Q p := List.forall_mem_map.symm
    _ ↔ ∀ p ∈ ps, card.Emits version p → Q p := by
        rw [Card.snd_emittedIn]
        simp only [List.mem_filter, decide_eq_true_iff, hperm.mem_iff, and_imp]

theorem Card.sections_eq {buckets : Buckets}
    (hbuckets : card.buckets target.addGenerator = .ok buckets) :
    card.sections target write =
      .ok (buckets.map fun bucket => (bucket.1, bucket.2.map (write bucket.1))) := by
  rw [Card.sections, hbuckets]
  rfl

theorem Card.buckets_of_sections {sections : Sections α}
    (hsections : card.sections target write = .ok sections) :
    ∃ buckets, card.buckets target.addGenerator = .ok buckets ∧
      sections = buckets.map fun bucket => (bucket.1, bucket.2.map (write bucket.1)) := by
  cases hbuckets : card.buckets target.addGenerator with
  | error e =>
      rw [Card.sections, hbuckets] at hsections
      cases hsections
  | ok buckets =>
      rw [Card.sections_eq hbuckets] at hsections
      cases hsections
      exact ⟨buckets, rfl, rfl⟩

/-- One bucket gives one piece of output for every property that is emitted. -/
theorem Card.WritesAs.outputs_bucket (hwrite : card.WritesAs target write form notes)
    (label : Scalar) (ps : List Property) :
    outputs (ps.map (write label)) =
      (ps.filter (card.Emits target.version)).map (form label) := by
  induction ps with
  | nil => rfl
  | cons p rest ih =>
      rw [List.map_cons, outputs, List.filterMap_cons, hwrite.output? label p]
      rw [outputs] at ih
      by_cases hemits : card.Emits target.version p <;> simp [hemits, ih]

/-- What holds of every form holds of all that is written. -/
theorem Card.WritesAs.forall_outputs (hwrite : card.WritesAs target write form notes)
    {P : α → Prop} (hform : ∀ label p, P (form label p)) (buckets : Buckets) :
    ∀ entry ∈ buckets.map fun bucket => (bucket.1, bucket.2.map (write bucket.1)),
      ∀ e ∈ outputs entry.2, P e := by
  rw [List.forall_mem_map]
  intro bucket _ e he
  rw [hwrite.outputs_bucket bucket.1] at he
  obtain ⟨p, -, rfl⟩ := List.mem_map.1 he
  exact hform bucket.1 p

/-- The pieces of output of a whole card, each under the label of its bucket. -/
theorem Card.WritesAs.placed_sections (hwrite : card.WritesAs target write form notes)
    (buckets : Buckets) :
    Sections.placed (buckets.map fun bucket => (bucket.1, bucket.2.map (write bucket.1))) =
      (card.emittedIn target.version buckets).map fun entry =>
        (entry.1, form entry.1 entry.2) := by
  rw [Sections.placed, List.flatMap_map, Card.emittedIn, List.map_flatMap]
  congr 1
  funext bucket
  rw [hwrite.outputs_bucket bucket.1 bucket.2, List.map_map, List.map_map]
  rfl

/-- The warnings of a whole card. -/
theorem Card.WritesAs.warnings_sections (hwrite : card.WritesAs target write form notes)
    (buckets : Buckets) :
    (Sections.outcomes
        (buckets.map fun bucket => (bucket.1, bucket.2.map (write bucket.1)))).flatMap
      Outcome.warnings = buckets.members.flatMap notes := by
  rw [Sections.outcomes, Buckets.members, List.flatMap_map, List.flatMap_assoc,
    List.flatMap_assoc]
  congr 1
  funext bucket
  rw [List.flatMap_map]
  congr 1
  funext p
  exact hwrite.warnings bucket.1 p

theorem Card.WritesAs.outputs_buckets (hwrite : card.WritesAs target write form notes)
    (buckets : Buckets) :
    outputs (Sections.outcomes
        (buckets.map fun bucket => (bucket.1, bucket.2.map (write bucket.1)))) =
      (card.emittedIn target.version buckets).map fun entry => form entry.1 entry.2 := by
  rw [Sections.outputs_outcomes, hwrite.placed_sections, List.map_map]
  rfl

/-- The pieces of output of a card come from buckets with all its properties. -/
theorem Card.WritesAs.outputs_sections (hwrite : card.WritesAs target write form notes)
    {sections : Sections α} (hsections : card.sections target write = .ok sections) :
    ∃ buckets : Buckets, buckets.members.Perm (card.listed target.addGenerator) ∧
      buckets.AreLabelled ∧
      outputs sections.outcomes =
        (card.emittedIn target.version buckets).map fun entry => form entry.1 entry.2 := by
  obtain ⟨buckets, hbuckets, rfl⟩ := Card.buckets_of_sections hsections
  obtain ⟨hperm, hlabelled⟩ := Card.buckets_ok hbuckets
  exact ⟨buckets, hperm, hlabelled, hwrite.outputs_buckets buckets⟩

/-! Where all groups are absent or named, the sections are those of the groups. -/

theorem Card.hasNamedGroup_listed (hgroups : ∀ p ∈ card.properties, p.HasNamedGroup)
    (addGenerator : Bool) : ∀ p ∈ card.listed addGenerator, p.HasNamedGroup :=
  (Card.forall_listed_iff (.inl rfl)).2 hgroups

/-- The sections of a card by the names of its groups. -/
def Card.sectionsByName (card : Card) (target : Target)
    (write : Scalar → Property → Outcome α) : Sections α :=
  (Buckets.byName (card.listed target.addGenerator)).map fun bucket =>
    (bucket.1, bucket.2.map (write bucket.1))

theorem Card.sections_eq_byName (hgroups : ∀ p ∈ card.properties, p.HasNamedGroup) :
    card.sections target write = .ok (card.sectionsByName target write) := by
  apply Card.sections_eq
  rw [Card.buckets_eq]
  exact Buckets.ofProperties_eq_byName (Card.hasNamedGroup_listed hgroups _)

theorem Card.emittedIn_byName (card : Card) (target : Target) :
    card.emittedIn target.version (Buckets.byName (card.listed target.addGenerator)) =
      (card.emitted target).map fun p => (Scalar.ofName? p.groupName?, p) := by
  rw [Card.emittedIn, Buckets.byName, Card.emitted, arranged, List.flatMap_map,
    List.filter_flatMap, List.map_flatMap]
  congr 1
  funext name
  apply List.map_congr_left
  intro p hp
  have hname : p.groupName? = name := by
    simpa using (List.mem_filter.1 (List.mem_filter.1 hp).1).2
  rw [hname]

/-- Every emitted property gives one piece of output, under its own group. -/
theorem Card.WritesAs.placed_byName (hwrite : card.WritesAs target write form notes) :
    (card.sectionsByName target write).placed = (card.emitted target).map fun p =>
      (Scalar.ofName? p.groupName?, form (Scalar.ofName? p.groupName?) p) := by
  rw [Card.sectionsByName, hwrite.placed_sections, Card.emittedIn_byName, List.map_map]
  rfl

theorem Card.WritesAs.outputs_byName (hwrite : card.WritesAs target write form notes) :
    outputs (card.sectionsByName target write).outcomes =
      (card.emitted target).map fun p => form (Scalar.ofName? p.groupName?) p := by
  rw [Sections.outputs_outcomes, hwrite.placed_byName, List.map_map]
  rfl

/-- The warnings of the record are the advice on the card and the notes on its
properties. -/
theorem Card.WritesAs.warnings_gather (hwrite : card.WritesAs target write form notes)
    {others : Property → List String}
    (hnotes : ∀ p ∈ card.listed target.addGenerator, notes p = others p)
    {β : Type} (assemble : Sections α → β) :
    (card.gather target assemble (card.sectionsByName target write)).warnings =
      card.nameWarnings target.version ++
        (arranged (card.listed target.addGenerator)).flatMap others := by
  have hcongr : (arranged (card.listed target.addGenerator)).flatMap notes =
      (arranged (card.listed target.addGenerator)).flatMap others :=
    List.flatMap_congr fun p hp => hnotes p (mem_arranged.1 hp)
  rw [Card.gather, Card.sectionsByName, hwrite.warnings_sections, Buckets.members_byName, hcongr]

/-- The warnings on a property: why it is turned away, or else what comes up when
it is written, or when it is skipped, and that it is skipped. -/
def Card.noted (card : Card) (target : Target) (onWritten onSkipped : Property → List String)
    (p : Property) : List String :=
  match card.reject? target.version p with
  | some reason => [reason.message]
  | none => if p.hasValue then onWritten p else onSkipped p ++ [skipWarning p.name]

/-- A writer follows the law when it turns away what the card rejects, skips what
has no value and writes all else. -/
theorem Card.writesAs_of {onWritten onSkipped : Property → List String}
    (hrejected : ∀ label p reason, card.reject? target.version p = some reason →
      write label p = .rejected reason)
    (hskipped : ∀ label p, card.reject? target.version p = none → p.hasValue = false →
      ∃ reason, write label p = .skipped p.name reason (onSkipped p))
    (hwritten : ∀ label p, card.reject? target.version p = none → p.hasValue = true →
      write label p = .written (form label p) (onWritten p)) :
    card.WritesAs target write form (card.noted target onWritten onSkipped) := by
  have hcases : ∀ label p,
      (write label p).output? =
          (if card.Emits target.version p then some (form label p) else none) ∧
        (write label p).warnings = card.noted target onWritten onSkipped p := by
    intro label p
    simp only [Card.emits_iff, Card.noted]
    cases hreject : card.reject? target.version p with
    | some reason =>
        simp [hrejected label p reason hreject, Outcome.output?, Outcome.warnings]
    | none =>
        cases hvalue : p.hasValue with
        | true => simp [hwritten label p hreject hvalue, Outcome.output?, Outcome.warnings]
        | false =>
            obtain ⟨reason, hreason⟩ := hskipped label p hreject hvalue
            simp [hreason, Outcome.output?, Outcome.warnings]
  exact ⟨fun label p => (hcases label p).1, fun label p => (hcases label p).2⟩

end Writer

/-! ## The three writers -/

/-- The parameters that are written for a property. -/
def Card.parametersOf (card : Card) (target : Target) (p : Property) : Parameters :=
  (p.writtenParameters target.version target.mode card.size).result

theorem Card.parametersOf_of_not_isHooked {p : Property} (hp : ¬p.IsHooked) (card : Card)
    (target : Target) : card.parametersOf target p = p.parameters := by
  rw [Card.parametersOf,
    (Property.quiet_of_not_isHooked hp target.version target.mode card.size).1]

/-- The warnings raised while the parameters are prepared. -/
def Card.parameterNotes (card : Card) (target : Target) (p : Property) : List String :=
  (p.writtenParameters target.version target.mode card.size).warnings

namespace PlainText

/-- The line of a property. -/
def lineOf (target : Target) (card : Card) (label : Scalar) (p : Property) : String :=
  line label p.name (card.parametersOf target p) p.plainValue

/-- The warnings of the parameters and of the value. -/
def valueNotes (target : Target) (card : Card) (p : Property) : List String :=
  card.parameterNotes target p ++ (p.text target.mode).warnings

def notes (target : Target) (card : Card) : Property → List String :=
  card.noted target (valueNotes target card) (valueNotes target card)

theorem writesAs (target : Target) (card : Card) :
    card.WritesAs target (writeProperty target card) (lineOf target card) (notes target card) := by
  apply Card.writesAs_of
  · intro label p reason hreject
    simp [writeProperty, hreject]
  · intro label p hreject hvalue
    obtain ⟨reason, hreason⟩ := Property.text_of_not_hasValue hvalue target.mode
    exact ⟨reason, by simp [writeProperty, hreject, hreason, valueNotes, Card.parameterNotes]⟩
  · intro label p hreject hvalue
    simp [writeProperty, hreject, Property.text_of_hasValue hvalue, lineOf, valueNotes,
      Card.parametersOf, Card.parameterNotes]

/-- The group in front of a line, which is not written if it is the empty text. -/
theorem groupLead_ofName? (name : Option String) :
    groupLead (Scalar.ofName? name) = (name.filter (· ≠ "")).elim "" (· ++ ".") := by
  cases name with
  | none => rfl
  | some s =>
      by_cases hs : s = "" <;>
        simp [Scalar.ofName?, groupLead, Scalar.holds, Scalar.spell, Option.filter, hs]

theorem filter_groupName? {p : Property}
    (hgroup : p.group = .null ∨ ∃ s, s ≠ "" ∧ p.group = .text s) :
    p.groupName?.filter (· ≠ "") = p.groupName? := by
  rcases hgroup with h | ⟨s, hs, h⟩
  · simp [Property.groupName?, h]
  · simp [Property.groupName?, h, Option.filter, hs]

/-- Nothing stops the writing as long as the labels of all lines have a spelling. -/
theorem badGroup?_eq_none_iff (sections : Sections String) :
    badGroup? sections = none ↔ ∀ entry ∈ sections.placed, entry.1.isSpelled = true := by
  induction sections with
  | nil => simp [badGroup?, Sections.placed]
  | cons first rest ih =>
      obtain ⟨label, outcomes⟩ := first
      have hplaced : Sections.placed ((label, outcomes) :: rest) =
          (outputs outcomes).map (fun e => (label, e)) ++ Sections.placed rest := rfl
      rw [hplaced, List.forall_mem_append, ← ih, badGroup?]
      cases hlabel : label.isSpelled <;>
        cases houtputs : outputs outcomes <;> simp [hlabel]

theorem record_eq_ok {target : Target} {card : Card} {sections : Sections String}
    (hsections : card.sections target (writeProperty target card) = .ok sections)
    (hlabels : badGroup? sections = none) :
    record target card = .ok (card.gather target (assemble target.version) sections) := by
  simp only [record, hsections, hlabels, bind, Except.bind]
  rfl

theorem record_eq_byName {card : Card} (hgroups : ∀ p ∈ card.properties, p.HasNamedGroup)
    (target : Target) : record target card =
      .ok (card.gather target (assemble target.version)
        (card.sectionsByName target (writeProperty target card))) := by
  refine record_eq_ok (Card.sections_eq_byName hgroups) ((badGroup?_eq_none_iff _).2 ?_)
  intro entry hentry
  rw [(writesAs target card).placed_byName] at hentry
  obtain ⟨p, -, rfl⟩ := List.mem_map.1 hentry
  exact Scalar.isSpelled_ofName? p.groupName?

theorem assemble_byName (target : Target) (card : Card) :
    assemble target.version (card.sectionsByName target (writeProperty target card)) =
      block target.version ((card.emitted target).map fun p =>
        lineOf target card (Scalar.ofName? p.groupName?) p) := by
  rw [assemble, (writesAs target card).outputs_byName]

theorem lineOf_ofName? (target : Target) (card : Card) (p : Property) :
    lineOf target card (Scalar.ofName? p.groupName?) p =
      (p.groupName?.filter (· ≠ "")).elim "" (· ++ ".") ++ Text.upper p.name ++
        (card.parametersOf target p).line ++ ":" ++ p.plainValue := by
  rw [lineOf, line, groupLead_ofName?]

/-- The whole text of a card.  A group that is the empty text is not written. -/
theorem assemble_byName_eq_join (target : Target) (card : Card) :
    assemble target.version (card.sectionsByName target (writeProperty target card)) =
      String.join ((["BEGIN:VCARD", "VERSION:" ++ target.version.number] ++
        ((card.emitted target).map fun p =>
          (p.groupName?.filter (· ≠ "")).elim "" (· ++ ".") ++ Text.upper p.name ++
            (card.parametersOf target p).line ++ ":" ++ p.plainValue) ++
        ["END:VCARD"]).map (· ++ "\r\n")) := by
  rw [assemble_byName, block]
  simp only [lineOf_ofName?]
  rfl

end PlainText

namespace JCard

/-- The entry of a property. -/
def entryOf (target : Target) (card : Card) (label : Scalar) (p : Property) : Entry where
  name := Text.lower p.name
  parameters := parameters label (card.parametersOf target p)
  dataType := p.jValue.result.dataType
  values := trailing p.jValue.result

/-- The warnings of a value count only where it is written. -/
def notes (target : Target) (card : Card) : Property → List String :=
  card.noted target (fun p => card.parameterNotes target p ++ p.jValue.warnings)
    (card.parameterNotes target)

theorem writesAs (target : Target) (card : Card) :
    card.WritesAs target (writeProperty target card) (entryOf target card)
      (notes target card) := by
  apply Card.writesAs_of
  · intro label p reason hreject
    simp [writeProperty, hreject]
  · intro label p hreject hvalue
    obtain ⟨reason, hreason⟩ := Property.text_of_not_hasValue hvalue target.mode
    exact ⟨reason, by simp [writeProperty, hreject, hreason, Card.parameterNotes]⟩
  · intro label p hreject hvalue
    simp [writeProperty, hreject, Property.text_of_hasValue hvalue, entryOf, Card.parametersOf,
      Card.parameterNotes]

theorem record_eq_byName {card : Card} (hgroups : ∀ p ∈ card.properties, p.HasNamedGroup)
    (target : Target) : record target card =
      .ok (card.gather target (assemble target.version)
        (card.sectionsByName target (writeProperty target card))) := by
  rw [record, Card.sections_eq_byName hgroups]
  rfl

theorem assemble_byName (target : Target) (card : Card) :
    assemble target.version (card.sectionsByName target (writeProperty target card)) =
      .ofVersion target.version :: (card.emitted target).map fun p =>
        entryOf target card (Scalar.ofName? p.groupName?) p := by
  rw [assemble, (writesAs target card).outputs_byName]

end JCard

namespace XCard

/-- The element of a property before characters are deleted from it. -/
def rawElementOf (target : Target) (card : Card) (p : Property) : Element :=
  propertyElement target.version p.name (card.parametersOf target p) p.plainValue

/-- The element of a property. -/
def elementOf (target : Target) (card : Card) (p : Property) : Element :=
  Xml.cleanTree (rawElementOf target card p)

/-- The warning on an element that characters are deleted from. -/
def cleaningNotes (target : Target) (card : Card) (p : Property) : List String :=
  if Xml.isCleanTree (rawElementOf target card p) then [] else [illegalWarning p.name]

def notes (target : Target) (card : Card) : Property → List String :=
  card.noted target
    (fun p => PlainText.valueNotes target card p ++ cleaningNotes target card p)
    (PlainText.valueNotes target card)

theorem writeProperty_eq_written {target : Target} {card : Card} {p : Property}
    (hreject : card.reject? target.version p = none) (hvalue : p.hasValue = true) :
    writeProperty target card p = .written (elementOf target card p)
      (PlainText.valueNotes target card p ++ cleaningNotes target card p) := by
  simp only [writeProperty, hreject, Property.text_of_hasValue hvalue]
  rfl

theorem writesAs (target : Target) (card : Card) :
    card.WritesAs target (fun _ => writeProperty target card) (fun _ => elementOf target card)
      (notes target card) := by
  apply Card.writesAs_of
  · intro _ p reason hreject
    simp [writeProperty, hreject]
  · intro _ p hreject hvalue
    obtain ⟨reason, hreason⟩ := Property.text_of_not_hasValue hvalue target.mode
    refine ⟨reason, ?_⟩
    simp [writeProperty, hreject, hreason, PlainText.valueNotes, Card.parameterNotes]
  · exact fun _ p => writeProperty_eq_written

/-- Beyond the warnings of the plain text there is one on deleted characters, for
properties that are emitted. -/
theorem notes_eq (target : Target) (card : Card) (p : Property) :
    notes target card p =
      PlainText.notes target card p ++
        if card.Emits target.version p then cleaningNotes target card p else [] := by
  simp only [notes, PlainText.notes, Card.noted, Card.emits_iff]
  cases card.reject? target.version p with
  | some reason => simp
  | none => cases p.hasValue <;> simp

theorem record_eq_byName {card : Card} (hgroups : ∀ p ∈ card.properties, p.HasNamedGroup)
    (target : Target) : record target card =
      .ok (card.gather target (assemble target.version)
        (card.sectionsByName target fun _ => writeProperty target card)) := by
  rw [record, Card.sections_eq_byName hgroups]
  rfl

end XCard

end ContactCard
