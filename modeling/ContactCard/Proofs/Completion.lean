import ContactCard.Proofs.Entry
import ContactCard.Proofs.History
import ContactCard.Proofs.XCard

/-!
# When writing comes to an end

Two things can stop the writing of a card: a group that is no scalar and so no label for
a bucket, and the label of something written that the format has no form for.  Without
either, all three formats write the card, whatever its names, parameters and values are.
-/

namespace ContactCard

/-! ## Labels -/

/-- A card has buckets exactly when every property has a label. -/
theorem Buckets.exists_ofProperties_iff (ps : List Property) :
    (∃ buckets, Buckets.ofProperties ps = .ok buckets) ↔
      ∀ p ∈ ps, ∃ label, p.group = .scalar label := by
  constructor
  · rintro ⟨buckets, hbuckets⟩ p hp
    obtain ⟨hperm, hlabelled⟩ := Buckets.ofProperties_ok hbuckets
    obtain ⟨bucket, hbucket, hmem⟩ := List.mem_flatMap.1 (hperm.mem_iff.2 hp)
    obtain ⟨label, hlabel, -⟩ := hlabelled bucket hbucket p hmem
    exact ⟨label, Property.label?_eq_some_iff.1 hlabel⟩
  · intro hlabels
    refine ⟨_, foldlM_eq_ok_foldl
      (g := fun buckets p => Buckets.place buckets (p.label?.getD .null) p) ?_ []⟩
    intro buckets p hp
    obtain ⟨label, hlabel⟩ := hlabels p hp
    rw [Property.label?_eq_some_iff.2 hlabel]
    rfl

theorem Card.exists_buckets_iff (card : Card) (addGenerator : Bool) :
    (∃ buckets, card.buckets addGenerator = .ok buckets) ↔
      ∀ p ∈ card.properties, ∃ label, p.group = .scalar label := by
  rw [Card.buckets_eq, Buckets.exists_ofProperties_iff]
  exact Card.forall_listed_iff ⟨.null, rfl⟩

/-- Labels that count as the same both name a group, or neither does. -/
theorem Scalar.exists_ofName?_iff_of_same {s t : Scalar}
    (hsame : s = t ∨ Key.same s t = true) :
    (∃ name, s = Scalar.ofName? name) ↔ ∃ name, t = Scalar.ofName? name := by
  have hnumber : ∀ {u : Scalar}, u.number?.isSome = true → ¬∃ name, u = Scalar.ofName? name := by
    rintro u hu ⟨name, rfl⟩
    simp at hu
  exact iff_of_same (P := fun u => ∃ name, u = Scalar.ofName? name)
    (fun hu hv => iff_of_false (hnumber hu) (hnumber hv)) hsame

theorem Property.hasNamedGroup_iff {p : Property} {label : Scalar}
    (hlabel : p.group = .scalar label) :
    p.HasNamedGroup ↔ ∃ name, label = Scalar.ofName? name := by
  rw [Property.HasNamedGroup, hlabel]
  constructor
  · rintro (h | ⟨s, h⟩)
    · exact ⟨none, Value.scalar.inj h⟩
    · exact ⟨some s, Value.scalar.inj h⟩
  · rintro ⟨name, rfl⟩
    cases name with
    | none => exact .inl rfl
    | some s => exact .inr ⟨s, rfl⟩

/-- All labels of what is written name groups exactly when the groups of all emitted
properties are absent or text. -/
theorem Card.named_emittedIn_iff {card : Card} {target : Target} {buckets : Buckets}
    (hbuckets : card.buckets target.addGenerator = .ok buckets) :
    (∀ entry ∈ card.emittedIn target.version buckets, ∃ name, entry.1 = Scalar.ofName? name) ↔
      ∀ p ∈ card.properties, card.Emits target.version p → p.HasNamedGroup := by
  obtain ⟨hperm, hlabelled⟩ := Card.buckets_ok hbuckets
  calc (∀ entry ∈ card.emittedIn target.version buckets, ∃ name, entry.1 = Scalar.ofName? name)
      ↔ ∀ p ∈ card.listed target.addGenerator,
          card.Emits target.version p → p.HasNamedGroup :=
        Card.forall_emittedIn_iff hperm hlabelled
          (P := fun label _ => ∃ name, label = Scalar.ofName? name) fun p _ hown hlabel =>
            (Scalar.exists_ofName?_iff_of_same hlabel).trans (Property.hasNamedGroup_iff hown).symm
    _ ↔ ∀ p ∈ card.properties, card.Emits target.version p → p.HasNamedGroup :=
        Card.forall_listed_iff fun _ => .inl rfl

/-! ## Plain text -/

namespace PlainText

theorem exists_write_iff (target : Target) (card : Card) :
    (∃ r w, write card { target } = .ok r w) ↔ ∃ r, record target card = .ok r := by
  constructor
  · rintro ⟨r, w, hwrite⟩
    cases hrecord : record target card with
    | ok made => exact ⟨made, rfl⟩
    | error e =>
        have herror : write card { target } = .error e { target } := write_error hrecord
        rw [herror] at hwrite
        cases hwrite
  · rintro ⟨r, hr⟩
    exact ⟨_, _, write_ok hr⟩

/-- Plain text needs a spelling for every label in front of a line. -/
theorem exists_record_iff (target : Target) (card : Card) :
    (∃ r, record target card = .ok r) ↔ ∃ buckets, card.buckets target.addGenerator = .ok buckets ∧
      ∀ entry ∈ card.emittedIn target.version buckets, entry.1.isSpelled = true := by
  have hplaced : ∀ buckets : Buckets,
      (∀ entry ∈ Sections.placed (buckets.map fun bucket =>
        (bucket.1, bucket.2.map (writeProperty target card bucket.1))), entry.1.isSpelled = true) ↔
      ∀ entry ∈ card.emittedIn target.version buckets, entry.1.isSpelled = true := by
    intro buckets
    rw [(writesAs target card).placed_sections, List.forall_mem_map]
  constructor
  · rintro ⟨r, hr⟩
    rw [record] at hr
    obtain ⟨sections, hsections, hgather⟩ := bind_eq_ok.1 hr
    obtain ⟨buckets, hbuckets, rfl⟩ := Card.buckets_of_sections hsections
    refine ⟨buckets, hbuckets, (hplaced buckets).1 ((badGroup?_eq_none_iff _).1 ?_)⟩
    split at hgather
    · cases hgather
    · next hnone => exact hnone
  · rintro ⟨buckets, hbuckets, hspelled⟩
    exact ⟨_, record_eq_ok (Card.sections_eq hbuckets)
      ((badGroup?_eq_none_iff _).2 ((hplaced buckets).2 hspelled))⟩

end PlainText

/-! ## jCard -/

namespace Json

theorem itemsError?_eq_none_iff (items : List Value) :
    itemsError? items = none ↔ ∀ v ∈ items, valueError? v = none := by
  induction items with
  | nil => simp [itemsError?]
  | cons v rest ih => rw [itemsError?, Option.or_eq_none_iff, List.forall_mem_cons, ih]

theorem entriesError?_eq_none_iff (entries : List (Scalar × Value)) :
    entriesError? entries = none ↔
      ∀ entry ∈ entries, scalarError? entry.1 = none ∧ valueError? entry.2 = none := by
  induction entries with
  | nil => simp [entriesError?]
  | cons entry rest ih =>
      rw [entriesError?, Option.or_eq_none_iff, Option.or_eq_none_iff, List.forall_mem_cons, ih]

theorem scalarError?_ofName? (name : Option String) :
    scalarError? (Scalar.ofName? name) = none := by
  cases name <;> rfl

theorem valueError?_text (s : String) : valueError? (.text s) = none := rfl

theorem valueError?_texts (texts : List String) :
    valueError? (.list (texts.map .text)) = none := by
  rw [valueError?, itemsError?_eq_none_iff, List.forall_mem_map]
  exact fun s _ => valueError?_text s

end Json

namespace JCard

open Json (valueError? valueError?_text valueError?_texts)

theorem valueError?_parameterValue (values : List String) :
    valueError? (parameterValue values) = none := by
  unfold parameterValue
  split
  · exact valueError?_text _
  · exact valueError?_texts _

theorem valueError?_trailing (v : JValue) : ∀ item ∈ trailing v, valueError? item = none := by
  have hitems : ∀ item ∈ v.toJson, valueError? item = none := by
    rw [JValue.toJson, List.forall_mem_map]
    intro strings _
    unfold JValue.groupingJson
    split
    · exact valueError?_text _
    · exact valueError?_texts _
  rw [trailing]
  split
  · rw [List.forall_mem_singleton]
    exact valueError?_text ""
  · exact hitems

/-- An entry has a JSON form if its label has one. -/
theorem valueError?_toValue_entryOf {target : Target} {card : Card} {label : Scalar}
    {p : Property} (hlabel : Json.scalarError? label = none) :
    valueError? (entryOf target card label p).toValue = none := by
  have hgroup : ∀ entry ∈ groupPairs label, valueError? entry.2 = none := by
    rw [groupPairs]
    split
    · simp
    · rw [List.forall_mem_singleton]
      exact hlabel
  have hpairs : ∀ entry ∈ parameterPairs (card.parametersOf target p),
      valueError? entry.2 = none := by
    rw [parameterPairs, List.forall_mem_map]
    exact fun entry _ => valueError?_parameterValue entry.2
  have hparameters := Keyed.forall_insertAll (P := fun v => valueError? v = none) hgroup hpairs
  rw [← parameters_eq] at hparameters
  rw [Entry.toValue, valueError?, Json.itemsError?_eq_none_iff]
  simp only [List.forall_mem_cons]
  refine ⟨valueError?_text _, ?_, valueError?_text _, valueError?_trailing _⟩
  rw [valueError?, Json.entriesError?_eq_none_iff, List.forall_mem_map]
  exact fun entry hentry => ⟨rfl, hparameters entry hentry⟩

/-- A document of entries that have a JSON form is written. -/
theorem writeChecked_eq_ok {d : Document (List Entry)}
    (hd : ∀ entries ∈ d.records, ∀ e ∈ entries, valueError? e.toValue = none)
    {indent : Option Int} (hindent : Json.indentError? indent = none) :
    writeChecked indent d = .ok (write indent d) := by
  have hrecord : ∀ entries ∈ d.records, valueError? (recordValue entries) = none := by
    intro entries hentries
    have hlist : valueError? (.list (entries.map Entry.toValue)) = none := by
      rw [valueError?, Json.itemsError?_eq_none_iff, List.forall_mem_map]
      exact hd entries hentries
    rw [recordValue, valueError?, Json.itemsError?_eq_none_iff, List.forall_mem_cons,
      List.forall_mem_singleton]
    exact ⟨valueError?_text "vcard", hlist⟩
  have hdocument : valueError? (documentValue d) = none := by
    rw [documentValue, valueError?, Json.itemsError?_eq_none_iff, List.forall_mem_map]
    exact hrecord
  simp only [writeChecked, Json.writeChecked, hindent, hdocument, Option.or_none]
  rfl

/-- jCard is written wherever the labels of what is written have a JSON form. -/
theorem exists_writeChecked {target : Target} {card : Card} {buckets : Buckets}
    (hbuckets : card.buckets target.addGenerator = .ok buckets)
    (hlabels : ∀ entry ∈ card.emittedIn target.version buckets,
      Json.scalarError? entry.1 = none) :
    ∃ r d, Document.add format card { target } = .ok r d ∧
      ∀ indent, Json.indentError? indent = none → ∃ s, writeChecked indent d = .ok s := by
  obtain ⟨r, hrecord, houtput⟩ : ∃ r, record target card = .ok r ∧
      r.output = .ofVersion target.version ::
        (card.emittedIn target.version buckets).map fun entry =>
          entryOf target card entry.1 entry.2 := by
    refine ⟨card.gather target (assemble target.version) (buckets.map fun bucket =>
      (bucket.1, bucket.2.map (writeProperty target card bucket.1))), ?_, ?_⟩
    · rw [record, Card.sections_eq hbuckets]
      rfl
    · exact congrArg (_ :: ·) ((writesAs target card).outputs_buckets buckets)
  have hentries : ∀ e ∈ r.output, valueError? e.toValue = none := by
    rw [houtput, List.forall_mem_cons, List.forall_mem_map]
    exact ⟨rfl, fun entry hentry => valueError?_toValue_entryOf (hlabels entry hentry)⟩
  refine ⟨_, _, Document.add_ok hrecord, fun indent hindent => ⟨_, writeChecked_eq_ok ?_ hindent⟩⟩
  intro entries hmem
  rw [List.mem_singleton.1 hmem]
  exact hentries

end JCard

/-! ## xCard -/

namespace Xml

theorem badAttributeIn?_eq_none_iff (children : List Element) :
    badAttributeIn? children = none ↔ ∀ e ∈ children, badAttribute? e = none := by
  induction children with
  | nil => simp [badAttributeIn?]
  | cons e rest ih => rw [badAttributeIn?, Option.or_eq_none_iff, List.forall_mem_cons, ih]

@[simp]
theorem badAttribute?_ofText (version : Version) (name s : String) :
    badAttribute? (.ofText version name s) = none := by
  simp [Element.ofText, badAttribute?, badAttributeIn?]

@[simp]
theorem badAttribute?_ofChildren (version : Version) (name : String) (children : List Element) :
    badAttribute? (.ofChildren version name children) = badAttributeIn? children := by
  simp [Element.ofChildren, badAttribute?]

end Xml

namespace XCard

open Xml (badAttribute? badAttributeIn?_eq_none_iff)

theorem badAttribute?_elementOf (target : Target) (card : Card) (p : Property) :
    badAttribute? (elementOf target card p) = none := by
  apply elementOf_induction (P := fun e => badAttribute? e = none)
  · exact fun version name s => Xml.badAttribute?_ofText version name (Xml.clean s)
  · intro version name children hchildren
    rw [Xml.badAttribute?_ofChildren, badAttributeIn?_eq_none_iff]
    exact hchildren

theorem badAttribute?_groupElement (version : Version) (label : Scalar)
    {children : List Element} (hchildren : ∀ e ∈ children, badAttribute? e = none) :
    badAttribute? (groupElement version label children) = none ↔ label.isText = true := by
  have hnone := (badAttributeIn?_eq_none_iff children).2 hchildren
  simp [groupElement, Element.ofChildren, badAttribute?, hnone]

theorem exists_ofName?_iff (label : Scalar) :
    (∃ name, label = Scalar.ofName? name) ↔ label = .null ∨ label.isText = true := by
  constructor
  · rintro ⟨name, rfl⟩
    cases name with
    | none => exact .inl rfl
    | some s => exact .inr rfl
  · rintro (rfl | htext)
    · exact ⟨none, rfl⟩
    · cases label with
      | text s => exact ⟨some s, rfl⟩
      | _ => cases htext

/-- A record has only texts for attributes when all labels in it name groups. -/
theorem badAttribute?_assemble_iff (target : Target) (card : Card) (buckets : Buckets) :
    badAttribute? (assemble target.version (buckets.map fun bucket =>
        (bucket.1, bucket.2.map (writeProperty target card)))) = none ↔
      ∀ entry ∈ card.emittedIn target.version buckets,
        ∃ name, entry.1 = Scalar.ofName? name := by
  rw [assemble_iff (P := fun e => badAttribute? e = none)
    (Q := fun label => ∃ name, label = Scalar.ofName? name)]
  · rw [(writesAs target card).placed_sections, List.forall_mem_map]
  · intro name children
    rw [Xml.badAttribute?_ofChildren, badAttributeIn?_eq_none_iff]
  · intro label children hlabel hchildren
    rw [badAttribute?_groupElement target.version label hchildren, exists_ofName?_iff]
    exact (or_iff_right hlabel).symm
  · exact ⟨none, rfl⟩
  · exact (writesAs target card).forall_outputs (fun _ => badAttribute?_elementOf target card) _

theorem exists_write_eq_ok_iff (indent : Bool) (d : Document Element) :
    (∃ s, write indent d = .ok s) ↔ ∀ e ∈ d.records, badAttribute? e = none := by
  have hroot : badAttribute? (root d) = none ↔ ∀ e ∈ d.records, badAttribute? e = none := by
    rw [root, Xml.badAttribute?_ofChildren, badAttributeIn?_eq_none_iff]
  rw [← hroot, write, Xml.write]
  cases badAttribute? (root d) <;> simp [Except.mapError]

/-- xCard is written exactly while all labels of what is written name groups. -/
theorem exists_write_iff (target : Target) (card : Card) (indent : Bool) :
    (∃ r d s, Document.add format card { target } = .ok r d ∧ write indent d = .ok s) ↔
      ∃ buckets, card.buckets target.addGenerator = .ok buckets ∧
        ∀ entry ∈ card.emittedIn target.version buckets,
          ∃ name, entry.1 = Scalar.ofName? name := by
  constructor
  · rintro ⟨r, d, s, hadd, hwrite⟩
    cases hrecord : record target card with
    | error e =>
        have herror : Document.add format card { target } = .error e { target } :=
          Document.add_error hrecord
        rw [herror] at hadd
        cases hadd
    | ok made =>
        have hmade : Document.add format card { target } = _ := Document.add_ok hrecord
        rw [hmade] at hadd
        cases hadd
        obtain ⟨buckets, hbuckets, houtput⟩ := record_ok hrecord
        have hform := (exists_write_eq_ok_iff indent _).1 ⟨s, hwrite⟩ made.output
          List.mem_cons_self
        rw [houtput] at hform
        exact ⟨buckets, hbuckets, (badAttribute?_assemble_iff target card buckets).1 hform⟩
  · rintro ⟨buckets, hbuckets, hnamed⟩
    have hrecord : record target card = .ok (card.gather target (assemble target.version)
        (buckets.map fun bucket => (bucket.1, bucket.2.map (writeProperty target card)))) := by
      rw [record, Card.sections_eq hbuckets]
      rfl
    obtain ⟨s, hs⟩ := (exists_write_eq_ok_iff indent
      { target, records := [_], warnings := _ }).2 (by
        rw [List.forall_mem_singleton]
        exact (badAttribute?_assemble_iff target card buckets).2 hnamed)
    exact ⟨_, _, s, Document.add_ok hrecord, hs⟩

end XCard

/-! ## All formats -/

/-- A card can be added to a new document of any format, and the document written out. -/
structure Card.Completes (card : Card) (target : Target) : Prop where
  xcard : ∀ indent, ∃ r d s,
    Document.add XCard.format card { target } = .ok r d ∧ XCard.write indent d = .ok s
  jcard : ∃ r d, Document.add JCard.format card { target } = .ok r d ∧
    ∀ indent, Json.indentError? indent = none → ∃ s, JCard.writeChecked indent d = .ok s
  text : ∃ r w, PlainText.write card { target } = .ok r w

/-- The writing of a card comes to its end in all formats exactly when every property has a
scalar for its group, and every emitted one none or text.  Names, parameters and values
never stop it. -/
theorem Card.completes_iff (card : Card) (target : Target) :
    card.Completes target ↔
      (∀ p ∈ card.properties, ∃ label, p.group = .scalar label) ∧
        ∀ p ∈ card.properties, card.Emits target.version p →
          p.group = .null ∨ ∃ s, p.group = .text s := by
  constructor
  · intro hcompletes
    obtain ⟨buckets, hbuckets, hnamed⟩ :=
      (XCard.exists_write_iff target card false).1 (hcompletes.xcard false)
    exact ⟨(card.exists_buckets_iff target.addGenerator).1 ⟨buckets, hbuckets⟩,
      (Card.named_emittedIn_iff hbuckets).1 hnamed⟩
  · rintro ⟨hscalar, hgroups⟩
    obtain ⟨buckets, hbuckets⟩ := (card.exists_buckets_iff target.addGenerator).2 hscalar
    have hnamed := (Card.named_emittedIn_iff hbuckets).2 hgroups
    -- A label that names a group has a spelling and a JSON form.
    have hspelled : ∀ entry ∈ card.emittedIn target.version buckets,
        entry.1.isSpelled = true := by
      intro entry hentry
      obtain ⟨name, hname⟩ := hnamed entry hentry
      rw [hname, Scalar.isSpelled_ofName?]
    have hformed : ∀ entry ∈ card.emittedIn target.version buckets,
        Json.scalarError? entry.1 = none := by
      intro entry hentry
      obtain ⟨name, hname⟩ := hnamed entry hentry
      rw [hname, Json.scalarError?_ofName?]
    constructor
    case xcard =>
      exact fun indent => (XCard.exists_write_iff target card indent).2 ⟨buckets, hbuckets, hnamed⟩
    case jcard => exact JCard.exists_writeChecked hbuckets hformed
    case text =>
      exact (PlainText.exists_write_iff target card).2
        ((PlainText.exists_record_iff target card).2 ⟨buckets, hbuckets, hspelled⟩)

/-- A description of a name in a group. -/
def descriptionIn (group : Value) : Value := .mapping [
  (.text "fn", .mapping [(.text "value", .text "Ann"), (.text "group", group)])]

/-- A number for a group is put into an attribute, and there it has no form. -/
theorem not_completes_groupNumber :
    ∃ card r d e, Card.ofValue (descriptionIn (.int 7)) = .ok card ∧
      Document.add XCard.format card { target := {} } = .ok r d ∧ r.warnings = [] ∧
      XCard.write false d = .error e ∧ ¬card.Completes {} := by
  refine ⟨_, _, _, _, rfl, rfl, rfl, rfl, fun hcompletes => ?_⟩
  obtain ⟨r, d, s, hadd, hwrite⟩ := hcompletes.xcard false
  cases hadd
  cases hwrite

end ContactCard
