import ContactCard.Proofs.Completion

/-!
# Characters in xCard records

XML can hold some characters only.  The texts of a record are cleaned of all others, those of
values and parameters alike, while the names of groups go into attributes as they are.  So a
record holds no other character exactly when no group of an emitted property does.
-/

namespace ContactCard

/-! ## Every node of a tree -/

namespace Element

mutual

/-- The nodes of a tree in document order, from its root on. -/
def nodes : Element → List Element
  | ⟨tag, attributes, text, children⟩ => ⟨tag, attributes, text, children⟩ :: nodesOf children

def nodesOf : List Element → List Element
  | [] => []
  | child :: rest => nodes child ++ nodesOf rest

end

theorem nodesOf_eq_flatMap (children : List Element) :
    nodesOf children = children.flatMap nodes := by
  induction children with
  | nil => rfl
  | cons child rest ih => rw [nodesOf, ih, List.flatMap_cons]

theorem nodes_eq (e : Element) : e.nodes = e :: e.children.flatMap nodes := by
  obtain ⟨tag, attributes, text, children⟩ := e
  rw [nodes, nodesOf_eq_flatMap]

theorem forall_nodes_iff {P : Element → Prop} (e : Element) :
    (∀ node ∈ e.nodes, P node) ↔ P e ∧ ∀ child ∈ e.children, ∀ node ∈ child.nodes, P node := by
  rw [nodes_eq, List.forall_mem_cons, List.forall_mem_flatMap]

end Element

namespace Xml

/-- Text that XML can hold. -/
def IsText (s : String) : Prop := ∀ c ∈ s.toList, IsChar c

instance (s : String) : Decidable (IsText s) := List.decidableBAll IsChar s.toList

theorem isText_clean (s : String) : IsText (clean s) := by
  intro c hc
  rw [clean, String.toList_ofList] at hc
  exact (isLegal_iff c).1 (List.mem_filter.1 hc).2

/-- XML can hold every text node of a tree. -/
def HasLegalTexts (e : Element) : Prop :=
  ∀ node ∈ e.nodes, ∀ s, node.text = some s → IsText s

/-- XML can hold every string in an attribute of a tree. -/
def HasLegalAttributes (e : Element) : Prop :=
  ∀ node ∈ e.nodes, ∀ name s, (name, Scalar.text s) ∈ node.attributes → IsText s

end Xml

namespace XCard

open Xml (IsText HasLegalTexts HasLegalAttributes)

theorem hasLegalTexts_ofChildren (version : Version) (name : String) (children : List Element) :
    HasLegalTexts (.ofChildren version name children) ↔ ∀ e ∈ children, HasLegalTexts e := by
  rw [HasLegalTexts, Element.forall_nodes_iff]
  exact and_iff_right (by simp [Element.ofChildren])

theorem hasLegalAttributes_ofChildren (version : Version) (name : String)
    (children : List Element) :
    HasLegalAttributes (.ofChildren version name children) ↔
      ∀ e ∈ children, HasLegalAttributes e := by
  rw [HasLegalAttributes, Element.forall_nodes_iff]
  exact and_iff_right (by simp [Element.ofChildren])

theorem hasLegalTexts_groupElement (version : Version) (label : Scalar)
    {children : List Element} (hchildren : ∀ e ∈ children, HasLegalTexts e) :
    HasLegalTexts (groupElement version label children) := by
  rw [HasLegalTexts, Element.forall_nodes_iff]
  exact ⟨by simp [groupElement, Element.ofChildren], hchildren⟩

theorem hasLegalAttributes_groupElement (version : Version) (label : Scalar)
    {children : List Element} (hchildren : ∀ e ∈ children, HasLegalAttributes e) :
    HasLegalAttributes (groupElement version label children) ↔
      ∀ s, label = .text s → IsText s := by
  rw [HasLegalAttributes, Element.forall_nodes_iff]
  constructor
  · rintro ⟨hroot, -⟩ s rfl
    exact hroot "name" s List.mem_cons_self
  · intro hlabel
    refine ⟨?_, hchildren⟩
    intro name s hmem
    obtain ⟨-, heq⟩ := Prod.mk.inj (List.mem_singleton.1 hmem)
    exact hlabel s heq.symm

theorem hasLegalTexts_elementOf (target : Target) (card : Card) (p : Property) :
    HasLegalTexts (elementOf target card p) := by
  apply elementOf_induction
  · intro version name s node hnode t ht
    rw [Element.nodes_eq] at hnode
    obtain rfl := List.mem_singleton.1 hnode
    obtain rfl := Option.some.inj ht
    exact Xml.isText_clean s
  · exact fun version name children => (hasLegalTexts_ofChildren version name children).2

theorem hasLegalAttributes_elementOf (target : Target) (card : Card) (p : Property) :
    HasLegalAttributes (elementOf target card p) := by
  apply elementOf_induction
  · intro version name s node hnode key t ht
    rw [Element.nodes_eq] at hnode
    obtain rfl := List.mem_singleton.1 hnode
    cases ht
  · exact fun version name children => (hasLegalAttributes_ofChildren version name children).2

/-- XML can hold all texts of a record, and all its attributes exactly when it can hold the
names of the groups of all emitted properties. -/
theorem legality_iff {target : Target} {card : Card} {r : Record Element}
    (hr : record target card = .ok r) :
    HasLegalTexts r.output ∧
      (HasLegalAttributes r.output ↔
        ∀ p ∈ card.properties, card.Emits target.version p →
          ∀ s, p.group = .text s → IsText s) := by
  obtain ⟨buckets, hbuckets, houtput⟩ := record_ok hr
  obtain ⟨hperm, hlabelled⟩ := Card.buckets_ok hbuckets
  have htexts := (writesAs target card).forall_outputs
    (fun _ => hasLegalTexts_elementOf target card) buckets
  have hattributes := (writesAs target card).forall_outputs
    (fun _ => hasLegalAttributes_elementOf target card) buckets
  rw [houtput]
  constructor
  · rw [assemble_iff (Q := fun _ => True) (hasLegalTexts_ofChildren target.version)
      (fun label children _ h => iff_true_intro (hasLegalTexts_groupElement _ label h)) trivial
      htexts]
    exact fun _ _ => trivial
  · have hlabel : ∀ {label own : Scalar}, ∀ p ∈ card.listed target.addGenerator,
        p.group = .scalar own → label = own ∨ Key.same label own = true →
        ((∀ s, label = .text s → IsText s) ↔ ∀ s, p.group = .text s → IsText s) := by
      intro label own p _ hown hsame
      simp only [Scalar.eq_text_iff_of_same hsame, hown, Value.scalar.injEq]
    calc HasLegalAttributes (assemble target.version (buckets.map fun bucket =>
          (bucket.1, bucket.2.map (writeProperty target card))))
        ↔ ∀ entry ∈ card.emittedIn target.version buckets,
            ∀ s, entry.1 = .text s → IsText s := by
          rw [assemble_iff (hasLegalAttributes_ofChildren target.version)
            (fun label children _ => hasLegalAttributes_groupElement target.version label)
            (by simp) hattributes, (writesAs target card).placed_sections, List.forall_mem_map]
      _ ↔ ∀ p ∈ card.listed target.addGenerator, card.Emits target.version p →
            ∀ s, p.group = .text s → IsText s :=
          Card.forall_emittedIn_iff hperm hlabelled
            (P := fun label _ => ∀ s, label = .text s → IsText s) hlabel
      _ ↔ ∀ p ∈ card.properties, card.Emits target.version p →
            ∀ s, p.group = .text s → IsText s :=
          Card.forall_listed_iff (by simp [generatorProperty, Property.ofText])

/-- A description of a name in a group, with a character that XML cannot hold in its value
and in a parameter. -/
def controlDescription : Value := .mapping [
  (.text "fn", .mapping [
    (.text "value", .text "A\x01nn"),
    (.text "group", .text "home"),
    (.text "parameters", .mapping [(.text "x-p", .text "1\x02")])])]

/-- Both characters are deleted with a warning. -/
theorem legality_controlDescription :
    ∃ card r, Card.ofValue controlDescription = .ok card ∧
      record { addGenerator := false } card = .ok r ∧ r.warnings = [illegalWarning "FN"] ∧
      HasLegalTexts r.output ∧ HasLegalAttributes r.output := by
  obtain ⟨card, hcard⟩ : ∃ card, Card.ofValue controlDescription = .ok card := ⟨_, rfl⟩
  obtain ⟨r, hr⟩ : ∃ r, record { addGenerator := false } card = .ok r := by
    cases hcard
    exact ⟨_, rfl⟩
  obtain ⟨htexts, hattributes⟩ := legality_iff hr
  refine ⟨card, r, hcard, hr, ?_, htexts, hattributes.2 ?_⟩
  · cases hcard
    cases hr
    rfl
  · cases hcard
    intro p hp _ s hs
    obtain rfl := List.mem_singleton.1 hp
    cases hs
    decide

/-- In the name of a group such a character is left, without a warning. -/
theorem not_hasLegalAttributes_groupName :
    ∃ card r, Card.ofValue (descriptionIn (.text "a\x01b")) = .ok card ∧
      record { addGenerator := false } card = .ok r ∧ r.warnings = [] ∧
      ¬HasLegalAttributes r.output := by
  refine ⟨_, _, rfl, rfl, rfl, fun hlegal => ?_⟩
  have htext : IsText "a\x01b" := hlegal _ (List.mem_cons_of_mem _ List.mem_cons_self) "name" _
    List.mem_cons_self
  exact absurd htext (by decide)

end XCard

end ContactCard
