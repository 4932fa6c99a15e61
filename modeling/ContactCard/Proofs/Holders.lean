import ContactCard.Proofs.ReadBack
import Mathlib.Data.List.TakeWhile

/-!
# Values in their holders

A property puts its texts into an element, each in a child under the name that its class
decides, and reads them from the children under that name.  So what is put in comes back as it
was, whatever other children there are: a missing value as a missing one, and a list with its
empty and repeated texts.  Of the tag of a child only the local name counts, and so a namespace
changes nothing.
-/

namespace ContactCard

/-! ## Children by name -/

/-- A local name goes up to the last closing brace. -/
theorem Tag.brace_not_mem_localName (tag : String) : '}' ∉ (Tag.localName tag).toList := by
  rw [Tag.localName, String.toList_ofList, Tag.localChars, List.mem_reverse]
  intro hmem
  simpa using List.mem_takeWhile_imp hmem

namespace Element

/-- The element under its local name in another namespace, or in none. -/
def within (ns : Option String) (e : Element) : Element :=
  { e with tag := ns.elim e.name fun ns => "\x7b" ++ ns ++ "\x7d" ++ e.name }

@[simp]
theorem name_within (ns : Option String) (e : Element) : (e.within ns).name = e.name := by
  have hbrace : '}' ∉ e.name.toList := Tag.brace_not_mem_localName e.tag
  cases ns with
  | none =>
      have hall : e.name.toList.reverse.takeWhile (· ≠ '}') = e.name.toList.reverse := by
        rw [List.takeWhile_eq_self_iff]
        intro c hc
        have hne : c ≠ '}' := fun h => hbrace (h ▸ List.mem_reverse.1 hc)
        simpa using hne
      change Tag.localName e.name = e.name
      rw [Tag.localName, Tag.localChars, hall]
      simp
  | some ns => exact Tag.localName_braced hbrace ns

/-- The texts under a name depend on the names and texts of the children only. -/
theorem texts_congr {e : Element} {children : List Element}
    (hchildren : List.Forall₂ (fun old new => new.name = old.name ∧ new.text = old.text)
      e.children children) (name : String) :
    ({ e with children := children } : Element).texts name = e.texts name := by
  obtain ⟨tag, attributes, text, olds⟩ := e
  simp only [texts] at hchildren ⊢
  induction hchildren with
  | nil => rfl
  | cons hhead _ ih =>
      simp only [List.filter_cons, hhead.1]
      split
      · rw [List.map_cons, List.map_cons, hhead.2, ih]
      · exact ih

/-- Behind children of other names the texts that were appended are all there are. -/
theorem texts_appendTexts {e : Element} {name : String} (hname : '}' ∉ name.toList)
    (hothers : ∀ child ∈ e.children, child.name ≠ name) (version : Version)
    (added : List String) : (e.appendTexts version name added).texts name = added := by
  have hnone : e.children.filter (fun child => child.name == name) = [] := by
    rw [List.filter_eq_nil_iff]
    intro child hchild
    simpa using hothers child hchild
  have hall : (added.map (ofText version name)).filter (fun child => child.name == name) =
      added.map (ofText version name) := by
    rw [List.filter_eq_self, List.forall_mem_map]
    intro s _
    simp [name_ofText hname]
  rw [texts, appendTexts, List.filter_append, hnone, hall, List.nil_append, List.map_map]
  exact List.map_id _

end Element

/-! ## Values of a property -/

namespace Property

/-- The texts of the value: those of a list, or the single one that may be missing. -/
def heldTexts (p : Property) : List String :=
  match p.body with
  | .text _ value => value.toList
  | .list _ _ values => values

theorem appendTo_eq (p : Property) (e : Element) (version : Version) :
    p.appendTo e version = e.appendTexts version p.holderName p.heldTexts := by
  obtain ⟨name, group, parameters, body⟩ := p
  cases body <;> rfl

theorem brace_not_mem_holderName (p : Property) : '}' ∉ p.holderName.toList := by
  obtain ⟨name, group, parameters, body⟩ := p
  cases body with
  | text cls value => cases cls <;> simp [holderName, TextClass.dataType]
  | list cls separator values => simp [holderName]

theorem SameClass.holderName_eq {p q : Property} (hclass : q.SameClass p) :
    q.holderName = p.holderName := by
  obtain ⟨cls, held, value, hq, hp⟩ | ⟨cls, _, held, separator, values, hq, hp⟩ := hclass.cases <;>
    simp [holderName, hq, hp]

/-- The value is read from the texts in the holders alone. -/
theorem readElement_of_texts {p q : Property} (hclass : q.SameClass p) {e : Element}
    (htexts : e.texts p.holderName = p.heldTexts) : q.readElement e = q.withValueOf p := by
  rw [← hclass.holderName_eq] at htexts
  obtain ⟨cls, held, value, hq, hp⟩ | ⟨cls, _, held, separator, values, hq, hp⟩ := hclass.cases
  · cases value <;>
      simp [readElement, withValueOf, setValue, hq, hp, Element.firstText?, htexts, heldTexts]
  · simp [readElement, withValueOf, setValues, hq, hp, htexts, heldTexts]

/-- A value that is put into an element behind children of other names leaves these as they are
and is read back by every property of the class, also when children have been moved into other
namespaces. -/
theorem readElement_appendTo {p q : Property} (hclass : q.SameClass p) {e : Element}
    (hothers : ∀ child ∈ e.children, child.name ≠ p.holderName) (version : Version) :
    p.appendTo e version = { e with
      children := e.children ++ p.heldTexts.map (Element.ofText version p.holderName) } ∧
    q.readElement (p.appendTo e version) = q.withValueOf p ∧
    ∀ children,
      List.Forall₂ (fun old new => new = old ∨ ∃ ns, new = old.within ns)
        (p.appendTo e version).children children →
      q.readElement { p.appendTo e version with children := children } = q.withValueOf p := by
  have htexts : (p.appendTo e version).texts p.holderName = p.heldTexts := by
    rw [appendTo_eq, Element.texts_appendTexts p.brace_not_mem_holderName hothers]
  refine ⟨appendTo_eq p e version, readElement_of_texts hclass htexts, ?_⟩
  intro children hchildren
  apply readElement_of_texts hclass
  rw [Element.texts_congr, htexts]
  apply hchildren.imp
  rintro old new (rfl | ⟨ns, rfl⟩)
  · exact ⟨rfl, rfl⟩
  · exact ⟨Element.name_within ns old, rfl⟩

/-- An element with a child of another class in it. -/
def foreignElement : Element where
  tag := "x"
  children := [{ tag := "\x7burn:x\x7duri", text := some "u" }]

/-- Categories, one of them empty and one twice, are read back from holders of another version
and from holders in a foreign namespace. -/
theorem readElement_appendTo_categories :
    (Property.categories ["old"]).SameClass (.categories ["a", "", "a"]) ∧
      (∀ child ∈ foreignElement.children, child.name ≠ "text") ∧
      (Property.categories ["old"]).readElement
        ((Property.categories ["a", "", "a"]).appendTo foreignElement .v30) =
          .categories ["a", "", "a"] ∧
      (Property.categories ["old"]).readElement { foreignElement with
        children := ((Property.categories ["a", "", "a"]).appendTo foreignElement .v30).children.map
          (Element.within (some "urn:\x7dy")) } = .categories ["a", "", "a"] := by
  have hclass : (Property.categories ["old"]).SameClass (.categories ["a", "", "a"]) := rfl
  have hothers : ∀ child ∈ foreignElement.children, child.name ≠ "text" := by decide
  obtain ⟨-, hread, hmoved⟩ := readElement_appendTo hclass hothers .v30
  refine ⟨hclass, hothers, hread, hmoved _ ?_⟩
  rw [List.forall₂_map_right_iff, List.forall₂_same]
  exact fun child _ => .inr ⟨_, rfl⟩

end Property

end ContactCard
