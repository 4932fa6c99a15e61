import ContactCard.Proofs.Emission
import Mathlib.Data.List.Nodup

/-!
# Reading xCard records

A record is read through its group elements: the properties in document order,
each with the label of the group element around it.  Reading what was assembled
from sections gives the sections back, bucket by bucket, and every group element
stands for one section that has something in it.
-/

namespace ContactCard

/-! ## Names -/

/-- A name without a closing brace is the local name of its tag in any namespace. -/
theorem Tag.localName_braced {name : String} (hname : '}' ∉ name.toList) (ns : String) :
    Tag.localName ("\x7b" ++ ns ++ "\x7d" ++ name) = name := by
  have htag : ("\x7b" ++ ns ++ "\x7d" ++ name).toList.reverse =
      name.toList.reverse ++ '}' :: ("\x7b" ++ ns).toList.reverse := by
    simp
  have hmem : ∀ c ∈ name.toList.reverse, (decide (c ≠ '}')) = true := by
    intro c hc
    have hne : c ≠ '}' := fun h => hname (h ▸ List.mem_reverse.1 hc)
    simpa using hne
  rw [Tag.localName, Tag.localChars, htag, List.takeWhile_append_of_pos hmem]
  simp

theorem Tag.localName_qualify {name : String} (hname : '}' ∉ name.toList) (version : Version) :
    Tag.localName (Tag.qualify version name) = name :=
  Tag.localName_braced hname version.xmlNamespace

theorem Element.name_ofText {name : String} (hname : '}' ∉ name.toList) (version : Version)
    (s : String) : (Element.ofText version name s).name = name :=
  Tag.localName_qualify hname version

theorem Element.name_ofChildren {name : String} (hname : '}' ∉ name.toList) (version : Version)
    (children : List Element) : (Element.ofChildren version name children).name = name :=
  Tag.localName_qualify hname version

/-! ## Cleaning -/

namespace Xml

/-- The characters of a document by the production of XML 1.0: tab, LF and CR, and from
space on all but the surrogates and the last two of the basic plane. -/
def IsChar (c : Char) : Prop :=
  c = '\t' ∨ c = '\n' ∨ c = '\r' ∨ 0x20 ≤ c.toNat ∧ c.toNat ≤ 0xd7ff ∨
    0xe000 ≤ c.toNat ∧ c.toNat ≤ 0xfffd ∨ 0x10000 ≤ c.toNat ∧ c.toNat ≤ 0x10ffff

instance (c : Char) : Decidable (IsChar c) := inferInstanceAs (Decidable (_ ∨ _))

theorem isLegal_iff (c : Char) : isLegal c = true ↔ IsChar c := by
  have hcode : ∀ d : Char, c = d ↔ c.toNat = d.toNat := fun d => Char.toNat_inj.symm
  have hcodes : '\t'.toNat = 0x9 ∧ '\n'.toNat = 0xa ∧ '\r'.toNat = 0xd := by decide
  rw [IsChar, hcode, hcode, hcode, hcodes.1, hcodes.2.1, hcodes.2.2]
  simp only [isLegal, legalRanges, Text.Ranges.has, Text.Ranges.hasCode, Bool.if_false_left,
    Bool.and_eq_true, Bool.or_eq_true, Bool.not_eq_true', Bool.false_eq_true, or_false,
    decide_eq_true_eq, decide_eq_false_iff_not]
  omega

theorem clean_eq_self_iff (s : String) : clean s = s ↔ isClean s = true := by
  rw [← String.toList_inj, clean, String.toList_ofList, List.filter_eq_self, isClean,
    List.all_eq_true]

theorem cleanTrees_eq_map (children : List Element) :
    cleanTrees children = children.map cleanTree := by
  induction children with
  | nil => rfl
  | cons child rest ih => rw [cleanTrees, ih, List.map_cons]

theorem areCleanTrees_eq_all (children : List Element) :
    areCleanTrees children = children.all isCleanTree := by
  induction children with
  | nil => rfl
  | cons child rest ih => rw [areCleanTrees, ih, List.all_cons]

@[simp]
theorem cleanTree_ofText (version : Version) (name s : String) :
    cleanTree (.ofText version name s) = .ofText version name (clean s) := by
  simp [Element.ofText, cleanTree, cleanTrees]

@[simp]
theorem cleanTree_ofChildren (version : Version) (name : String) (children : List Element) :
    cleanTree (.ofChildren version name children) =
      .ofChildren version name (children.map cleanTree) := by
  simp [Element.ofChildren, cleanTree, cleanTrees_eq_map]

@[simp]
theorem isCleanTree_ofText (version : Version) (name s : String) :
    isCleanTree (.ofText version name s) = isClean s := by
  simp [Element.ofText, isCleanTree, areCleanTrees]

@[simp]
theorem isCleanTree_ofChildren (version : Version) (name : String) (children : List Element) :
    isCleanTree (.ofChildren version name children) = children.all isCleanTree := by
  simp [Element.ofChildren, isCleanTree, areCleanTrees_eq_all]

end Xml

namespace XCard

/-! ## Property elements -/

/-- The texts of a property: the values of its parameters, the value type aside,
and its own value. -/
def textsOf (t : Parameters) (value : String) : List String :=
  (t.entries.filter fun entry => entry.1 ≠ "VALUE").flatMap (·.2) ++ [value]

theorem isCleanTree_parameterElement (version : Version) (entry : String × List String) :
    Xml.isCleanTree (parameterElement version entry) = entry.2.all Xml.isClean := by
  simp [parameterElement, List.all_map, Function.comp_def]

theorem isCleanTree_parametersElement? (version : Version) (t : Parameters) :
    (parametersElement? version t).toList.all Xml.isCleanTree =
      (t.entries.filter fun entry => entry.1 ≠ "VALUE").all fun entry =>
        entry.2.all Xml.isClean := by
  rw [parametersElement?]
  split
  · next hnone =>
    rw [hnone]
    rfl
  · simp [List.all_map, Function.comp_def, isCleanTree_parameterElement]

/-- Nothing is deleted from an element exactly when all texts of its property are
clean. -/
theorem isCleanTree_propertyElement (version : Version) (name : String) (t : Parameters)
    (value : String) :
    Xml.isCleanTree (propertyElement version name t value) =
      (textsOf t value).all Xml.isClean := by
  rw [propertyElement, Xml.isCleanTree_ofChildren, List.all_append,
    isCleanTree_parametersElement?, textsOf, List.all_append, List.all_flatMap]
  simp

theorem isCleanTree_rawElementOf_eq_false (target : Target) (card : Card) (p : Property) :
    Xml.isCleanTree (rawElementOf target card p) = false ↔
      ∃ s ∈ textsOf (card.parametersOf target p) p.plainValue, Xml.clean s ≠ s := by
  rw [rawElementOf, isCleanTree_propertyElement, List.all_eq_false]
  simp only [ne_eq, Xml.clean_eq_self_iff]

/-- The warning on deleted characters says that cleaning changes some text of the property. -/
theorem cleaningNotes_eq (target : Target) (card : Card) (p : Property) :
    cleaningNotes target card p =
      if ∃ s ∈ textsOf (card.parametersOf target p) p.plainValue, Xml.clean s ≠ s then
        [illegalWarning p.name]
      else [] := by
  simp only [cleaningNotes, ← isCleanTree_rawElementOf_eq_false]
  cases Xml.isCleanTree (rawElementOf target card p) <;> rfl

theorem attributes_elementOf (target : Target) (card : Card) (p : Property) :
    (elementOf target card p).attributes = [] := by
  rw [elementOf, rawElementOf, propertyElement, Xml.cleanTree_ofChildren]
  rfl

/-- Besides the parameters a property has one child, its plain-text value, cleaned. -/
theorem texts_elementOf_of_ne {name : String} (hname : name ≠ "parameters") (target : Target)
    (card : Card) (p : Property) :
    (elementOf target card p).texts name =
      if name = "text" then [Xml.clean p.plainValue] else [] := by
  have hparameters : ((parametersElement? target.version (card.parametersOf target p)).toList.map
      Xml.cleanTree).filter (fun child => child.name == name) = [] := by
    rw [parametersElement?]
    split
    · rfl
    · have hchildren (children : List Element) :
          (Element.ofChildren target.version "parameters" children).name = "parameters" :=
        Element.name_ofChildren (by decide) target.version children
      simp [hchildren, hname.symm]
  have htext (s : String) : (Element.ofText target.version "text" s).name = "text" :=
    Element.name_ofText (by decide) target.version s
  rw [elementOf, rawElementOf, propertyElement, Xml.cleanTree_ofChildren, Element.texts]
  simp only [Element.ofChildren, List.map_append, List.filter_append, hparameters]
  by_cases hvalue : name = "text"
  · subst hvalue
    simp [htext]
    rfl
  · simp [htext, hvalue, Ne.symm hvalue]

theorem texts_elementOf (target : Target) (card : Card) (p : Property) :
    (elementOf target card p).texts "text" = [Xml.clean p.plainValue] :=
  texts_elementOf_of_ne (by decide) target card p

/-! ## Group elements -/

/-- The label of a group element; a property element has none. -/
def groupLabel? (e : Element) : Option Scalar := Keyed.lookup e.attributes "name"

/-- The group elements of a record. -/
def groupElements (record : Element) : List Element :=
  record.children.filter fun child => (groupLabel? child).isSome

/-- The property elements of a record in document order, each under the label of
the group element around it. -/
def members (record : Element) : List (Scalar × Element) :=
  record.children.flatMap fun child =>
    match groupLabel? child with
    | some label => child.children.map fun e => (label, e)
    | none => [(.null, child)]

theorem groupLabel?_groupElement (version : Version) (label : Scalar) (children : List Element) :
    groupLabel? (groupElement version label children) = some label := by
  simp [groupLabel?, groupElement, Keyed.lookup, Key.same]

theorem groupLabel?_of_attributes {e : Element} (he : e.attributes = []) :
    groupLabel? e = none := by
  simp [groupLabel?, he, Keyed.lookup]

/-- The members of a record are those of its sections. -/
theorem members_assemble (version : Version) {sections : Sections Element}
    (hplain : ∀ entry ∈ sections, ∀ e ∈ outputs entry.2, e.attributes = []) :
    members (assemble version sections) = sections.placed := by
  rw [members, assemble, Sections.placed]
  simp only [Element.ofChildren, List.flatMap_assoc]
  apply List.flatMap_congr
  intro entry hentry
  have hnone : ∀ e ∈ outputs entry.2, groupLabel? e = none :=
    fun e he => groupLabel?_of_attributes (hplain entry hentry e he)
  rw [sectionElements]
  by_cases hempty : outputs entry.2 = []
  · simp [hempty]
  · rw [if_neg (by simpa using hempty)]
    by_cases hnull : entry.1 = .null
    · rw [if_pos hnull, hnull, ← List.flatMap_pure_eq_map]
      apply List.flatMap_congr
      intro e he
      rw [hnone e he]
      rfl
    · rw [if_neg hnull, List.flatMap_singleton, groupLabel?_groupElement]
      rfl

/-- There is a group element for every named section with something in it. -/
theorem groupElements_assemble (version : Version) {sections : Sections Element}
    (hplain : ∀ entry ∈ sections, ∀ e ∈ outputs entry.2, e.attributes = []) :
    groupElements (assemble version sections) =
      (sections.filter fun entry => entry.1 ≠ .null ∧ outputs entry.2 ≠ []).map fun entry =>
        groupElement version entry.1 (outputs entry.2) := by
  rw [groupElements, assemble]
  induction sections with
  | nil => rfl
  | cons entry rest ih =>
      have hrest := ih fun other hother => hplain other (List.mem_cons_of_mem _ hother)
      have hnone : ∀ e ∈ outputs entry.2, groupLabel? e = none :=
        fun e he => groupLabel?_of_attributes (hplain entry List.mem_cons_self e he)
      simp only [Element.ofChildren, List.flatMap_cons, List.filter_append] at hrest ⊢
      rw [hrest, sectionElements]
      by_cases hempty : outputs entry.2 = []
      · simp [hempty]
      · rw [if_neg (by simpa using hempty)]
        by_cases hnull : entry.1 = .null
        · have hinside : (outputs entry.2).filter (fun e => (groupLabel? e).isSome) = [] := by
            rw [List.filter_eq_nil_iff]
            intro e he
            simp [hnone e he]
          rw [if_pos hnull, hinside]
          simp [hnull]
        · rw [if_neg hnull]
          simp [hempty, hnull, groupLabel?_groupElement]

/-! ## Records -/

theorem record_ok {target : Target} {card : Card} {r : Record Element}
    (hr : record target card = .ok r) :
    ∃ buckets, card.buckets target.addGenerator = .ok buckets ∧
      r.output = assemble target.version (buckets.map fun bucket =>
        (bucket.1, bucket.2.map (writeProperty target card))) := by
  rw [record] at hr
  obtain ⟨sections, hsections, hgather⟩ := bind_eq_ok.1 hr
  obtain ⟨buckets, hbuckets, rfl⟩ := Card.buckets_of_sections hsections
  cases hgather
  exact ⟨buckets, hbuckets, rfl⟩

/-- Every emitted property has an element in its place. -/
theorem members_assemble_buckets (target : Target) (card : Card) (buckets : Buckets) :
    members (assemble target.version (buckets.map fun bucket =>
        (bucket.1, bucket.2.map (writeProperty target card)))) =
      (card.emittedIn target.version buckets).map fun entry =>
        (entry.1, elementOf target card entry.2) := by
  rw [members_assemble, (writesAs target card).placed_sections]
  exact (writesAs target card).forall_outputs (fun _ => attributes_elementOf target card) buckets

/-- What holds of cleaned text and of whatever has only such children holds of the element
of a property. -/
theorem elementOf_induction {P : Element → Prop}
    (htext : ∀ version name s, P (.ofText version name (Xml.clean s)))
    (hchildren : ∀ version name children, (∀ e ∈ children, P e) →
      P (.ofChildren version name children)) (target : Target) (card : Card) (p : Property) :
    P (elementOf target card p) := by
  have hparameter : ∀ entry, P (Xml.cleanTree (parameterElement target.version entry)) := by
    intro entry
    rw [parameterElement, Xml.cleanTree_ofChildren]
    apply hchildren
    simp only [List.forall_mem_map, Xml.cleanTree_ofText]
    exact fun value _ => htext _ _ value
  rw [elementOf, rawElementOf, propertyElement, Xml.cleanTree_ofChildren]
  apply hchildren
  rw [List.forall_mem_map, List.forall_mem_append, List.forall_mem_singleton,
    Xml.cleanTree_ofText]
  refine ⟨?_, htext _ _ p.plainValue⟩
  rw [parametersElement?]
  split
  · simp
  · simp only [Option.toList_some, List.forall_mem_singleton, Xml.cleanTree_ofChildren]
    apply hchildren
    simp only [List.forall_mem_map]
    exact fun entry _ => hparameter entry

/-- What holds of elements exactly as it holds of their children holds of a record as far
as it holds of the labels of its group elements. -/
theorem assemble_iff {version : Version} {P : Element → Prop} {Q : Scalar → Prop}
    (hchildren : ∀ name children, P (.ofChildren version name children) ↔ ∀ e ∈ children, P e)
    (hgroup : ∀ label children, label ≠ .null → (∀ e ∈ children, P e) →
      (P (groupElement version label children) ↔ Q label))
    (hnull : Q .null) {sections : Sections Element}
    (hplain : ∀ entry ∈ sections, ∀ e ∈ outputs entry.2, P e) :
    P (assemble version sections) ↔ ∀ entry ∈ sections.placed, Q entry.1 := by
  rw [assemble, hchildren, List.forall_mem_flatMap, Sections.placed, List.forall_mem_flatMap]
  refine forall₂_congr fun entry hentry => ?_
  rw [List.forall_mem_map, sectionElements]
  by_cases hempty : outputs entry.2 = []
  · simp [hempty]
  · rw [if_neg (by simpa using hempty)]
    by_cases hlabel : entry.1 = .null
    · rw [if_pos hlabel, hlabel]
      exact iff_of_true (hplain entry hentry) fun _ _ => hnull
    · obtain ⟨first, hfirst⟩ := List.exists_mem_of_ne_nil _ hempty
      rw [if_neg hlabel, List.forall_mem_singleton, hgroup entry.1 _ hlabel (hplain entry hentry)]
      exact ⟨fun h _ _ => h, fun h => h first hfirst⟩

/-! ## Group elements by name -/

theorem attributes_outputs_sectionsByName (target : Target) (card : Card) :
    ∀ entry ∈ card.sectionsByName target (fun _ => writeProperty target card),
      ∀ e ∈ outputs entry.2, e.attributes = [] :=
  (writesAs target card).forall_outputs (fun _ => attributes_elementOf target card) _

/-- The assembled record of a card whose groups are absent or named. -/
def assembled (target : Target) (card : Card) : Element :=
  assemble target.version (card.sectionsByName target fun _ => writeProperty target card)

/-- Document order is the order of the emitted properties. -/
theorem members_assembled (target : Target) (card : Card) :
    members (assembled target card) = (card.emitted target).map fun p =>
      (Scalar.ofName? p.groupName?, elementOf target card p) := by
  rw [assembled, members_assemble _ (attributes_outputs_sectionsByName target card),
    (writesAs target card).placed_byName]

/-- A group element is labelled by a name and has something in it. -/
theorem groupElement_assembled {target : Target} {card : Card} {e : Element}
    (he : e ∈ groupElements (assembled target card)) :
    ∃ name, groupLabel? e = some (.text name) ∧ e.tag = Tag.qualify target.version "group" ∧
      e.children ≠ [] := by
  rw [assembled, groupElements_assemble _ (attributes_outputs_sectionsByName target card)] at he
  obtain ⟨entry, hentry, rfl⟩ := List.mem_map.1 he
  obtain ⟨hsection, hkept⟩ := List.mem_filter.1 hentry
  obtain ⟨hnull, hnonempty⟩ : entry.1 ≠ .null ∧ outputs entry.2 ≠ [] := by simpa using hkept
  obtain ⟨bucket, hbucket, rfl⟩ := List.mem_map.1 hsection
  obtain ⟨name, -, rfl⟩ := List.mem_map.1 hbucket
  cases name with
  | none => exact absurd rfl hnull
  | some s => exact ⟨s, groupLabel?_groupElement .., rfl, hnonempty⟩

/-- No two group elements have the same label. -/
theorem nodup_labels_assembled (target : Target) (card : Card) :
    ((groupElements (assembled target card)).map groupLabel?).Nodup := by
  have hinjective : Function.Injective fun name => some (Scalar.ofName? name) :=
    fun _ _ heq => Scalar.ofName?_injective (Option.some.inj heq)
  have hlabels : ((card.sectionsByName target fun _ => writeProperty target card).map fun entry =>
      some entry.1).Nodup := by
    rw [Card.sectionsByName, Buckets.byName, List.map_map, List.map_map]
    exact (nodup_groupNames _).map hinjective
  rw [assembled, groupElements_assemble _ (attributes_outputs_sectionsByName target card),
    List.map_map]
  have hcongr : (groupLabel? ∘ fun entry : Scalar × List (Outcome Element) =>
      groupElement target.version entry.1 (outputs entry.2)) = fun entry => some entry.1 := by
    funext entry
    exact groupLabel?_groupElement ..
  rw [hcongr]
  exact hlabels.sublist (List.filter_sublist.map _)

/-- There is a group element of a name exactly when something is emitted in the group. -/
theorem exists_groupElement_iff (target : Target) (card : Card) (name : String) :
    (∃ e ∈ groupElements (assembled target card), groupLabel? e = some (.text name)) ↔
      ∃ p ∈ card.emitted target, p.groupName? = some name := by
  have hmembers := members_assembled target card
  constructor
  · rintro ⟨e, he, hlabel⟩
    obtain ⟨_, _, _, hchildren⟩ := groupElement_assembled he
    obtain ⟨child, hchild⟩ := List.exists_mem_of_ne_nil _ hchildren
    have hmem : (Scalar.text name, child) ∈ members (assembled target card) := by
      refine List.mem_flatMap.2 ⟨e, (List.mem_filter.1 he).1, ?_⟩
      rw [hlabel]
      exact List.mem_map_of_mem hchild
    rw [hmembers] at hmem
    obtain ⟨p, hp, heq⟩ := List.mem_map.1 hmem
    refine ⟨p, hp, ?_⟩
    have hname := congrArg Prod.fst heq
    cases hgroup : p.groupName? <;> simp_all [Scalar.ofName?]
  · rintro ⟨p, hp, hgroup⟩
    have hmem : (Scalar.text name, elementOf target card p) ∈
        members (assembled target card) := by
      rw [hmembers]
      exact List.mem_map.2 ⟨p, hp, by rw [hgroup]; rfl⟩
    obtain ⟨child, hchild, hinside⟩ := List.mem_flatMap.1 hmem
    cases hlabel : groupLabel? child with
    | none => simp [hlabel] at hinside
    | some label =>
        rw [hlabel] at hinside
        obtain ⟨e, -, heq⟩ := List.mem_map.1 hinside
        have hname : label = .text name := congrArg Prod.fst heq
        exact ⟨child, List.mem_filter.2 ⟨hchild, by simp [hlabel]⟩, by rw [hlabel, hname]⟩

end XCard

end ContactCard
