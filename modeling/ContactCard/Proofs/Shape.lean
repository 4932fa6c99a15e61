import ContactCard.Proofs.Legality

/-!
# The shape of property elements

The element of a property is fixed down to its leaves: the lower-cased name of the property,
under it the parameters, where there are any beside the value type, with one holder for every
value, and behind them the value.  At the leaves stands the text without the characters that XML
cannot hold, and one warning, behind all others, says if there were any.
-/

namespace ContactCard

/-- Looking up the names of a table one by one gives its entries. -/
theorem Parameters.entries_eq_map_names (t : Parameters) :
    t.entries = t.names.map fun name => (name, t.values name) := by
  have hvalues : ∀ entry ∈ t.entries, (entry.1, t.values entry.1) = entry := by
    intro entry hentry
    have hupper := t.names_upper entry.1 (List.mem_map_of_mem hentry)
    rw [values, hupper, Keyed.lookup_of_mem t.names_nodup hentry]
    rfl
  rw [names, Keyed.keys, List.map_map]
  exact ((List.map_congr_left hvalues).trans (List.map_id _)).symm

namespace Xml

theorem clean_eq_filter (s : String) :
    clean s = .ofList (s.toList.filter fun c => IsChar c) := by
  rw [clean]
  congr 2
  funext c
  rw [Bool.eq_iff_iff, isLegal_iff, decide_eq_true_iff]

theorem clean_eq_self_iff_isText (s : String) : clean s = s ↔ IsText s := by
  rw [clean_eq_self_iff, isClean, List.all_eq_true]
  simp only [isLegal_iff]
  rfl

end Xml

namespace XCard

/-- An element that holds the characters of a text that XML can hold, in their order. -/
def textShape (version : Version) (name s : String) : Element where
  tag := Tag.qualify version name
  text := some (.ofList (s.toList.filter fun c => Xml.IsChar c))

/-- A parameter with one holder for every value. -/
def parameterShape (version : Version) (name : String) (values : List String) : Element where
  tag := Tag.qualify version (Text.lower name)
  children := values.map (textShape version (holderName (Text.lower name)))

/-- The parameters but the value type, if there are others. -/
def parametersShape? (version : Version) (t : Parameters) : Option Element :=
  if ∃ name ∈ t.names, name ≠ "VALUE" then
    some {
      tag := Tag.qualify version "parameters"
      children := (t.entries.filter fun entry => entry.1 ≠ "VALUE").map fun entry =>
        parameterShape version entry.1 entry.2 }
  else none

/-- A property with its parameters and behind them its value. -/
def shape (version : Version) (name : String) (t : Parameters) (value : String) : Element where
  tag := Tag.qualify version (Text.lower name)
  children := (parametersShape? version t).toList ++ [textShape version "text" value]

/-! ## Cleaned elements -/

theorem cleanTree_ofText_eq (version : Version) (name s : String) :
    Xml.cleanTree (.ofText version name s) = textShape version name s := by
  rw [Xml.cleanTree_ofText, Xml.clean_eq_filter]
  rfl

theorem cleanTree_parameterElement (version : Version) (entry : String × List String) :
    Xml.cleanTree (parameterElement version entry) = parameterShape version entry.1 entry.2 := by
  rw [parameterElement, Xml.cleanTree_ofChildren, List.map_map]
  simp only [Function.comp_def, cleanTree_ofText_eq]
  rfl

theorem map_cleanTree_parametersElement? (version : Version) (t : Parameters) :
    (parametersElement? version t).map Xml.cleanTree = parametersShape? version t := by
  have hsome : (∃ name ∈ t.names, name ≠ "VALUE") ↔
      t.entries.filter (fun entry => entry.1 ≠ "VALUE") ≠ [] := by
    simp [Parameters.names, Keyed.keys]
  rw [parametersElement?]
  split
  · next hnone =>
    rw [parametersShape?, if_neg fun h => hsome.1 h hnone]
    rfl
  · next hne =>
    rw [parametersShape?, if_pos (hsome.2 hne), Option.map_some, Xml.cleanTree_ofChildren,
      List.map_map]
    simp only [Function.comp_def, cleanTree_parameterElement]
    rfl

/-- Cleaning leaves an element of its shape. -/
theorem elementOf_eq_shape (target : Target) (card : Card) (p : Property) :
    elementOf target card p =
      shape target.version p.name (card.parametersOf target p) p.plainValue := by
  rw [elementOf, rawElementOf, propertyElement, Xml.cleanTree_ofChildren, List.map_append,
    List.map_singleton, cleanTree_ofText_eq, shape, ← map_cleanTree_parametersElement?,
    Option.toList_map]
  rfl

/-- Every tag is qualified by the namespace of the version. -/
theorem exists_tag_eq_of_mem_nodes_shape {version : Version} {name : String} {t : Parameters}
    {value : String} :
    ∀ node ∈ (shape version name t value).nodes, ∃ n, node.tag = Tag.qualify version n := by
  have htext : ∀ n s, ∀ node ∈ (textShape version n s).nodes,
      ∃ n, node.tag = Tag.qualify version n := by
    intro n s
    rw [Element.forall_nodes_iff]
    exact ⟨⟨n, rfl⟩, by simp [textShape]⟩
  have hparameter : ∀ n values, ∀ node ∈ (parameterShape version n values).nodes,
      ∃ n, node.tag = Tag.qualify version n := by
    intro n values
    rw [Element.forall_nodes_iff]
    refine ⟨⟨_, rfl⟩, ?_⟩
    rw [parameterShape, List.forall_mem_map]
    exact fun s _ => htext _ s
  have hparameters : ∀ e ∈ parametersShape? version t, ∀ node ∈ e.nodes,
      ∃ n, node.tag = Tag.qualify version n := by
    intro e he
    rw [parametersShape?] at he
    split at he
    · obtain rfl := Option.some.inj he
      rw [Element.forall_nodes_iff]
      refine ⟨⟨_, rfl⟩, ?_⟩
      rw [List.forall_mem_map]
      exact fun entry _ => hparameter entry.1 entry.2
    · cases he
  rw [Element.forall_nodes_iff]
  refine ⟨⟨_, rfl⟩, ?_⟩
  rw [shape, List.forall_mem_append, List.forall_mem_singleton]
  exact ⟨fun e he => hparameters e (Option.mem_toList.1 he), htext _ _⟩

/-- An emitted property is written in its shape, with the parameters in the order of their names,
and the warning on deleted characters behind all others says that XML cannot hold some of its
texts. -/
theorem writeProperty_eq_shape {target : Target} {card : Card} {p : Property}
    (hemits : card.Emits target.version p) :
    (p.text target.mode).result = .ok p.plainValue ∧
    writeProperty target card p = .written
      (shape target.version p.name (card.parametersOf target p) p.plainValue)
      (card.parameterNotes target p ++ (p.text target.mode).warnings ++
        if ∃ s ∈ textsOf (card.parametersOf target p) p.plainValue, ¬Xml.IsText s then
          [illegalWarning p.name]
        else []) ∧
    (card.parametersOf target p).entries = (card.parametersOf target p).names.map (fun name =>
      (name, (card.parametersOf target p).values name)) ∧
    ∀ node ∈
      (shape target.version p.name (card.parametersOf target p) p.plainValue).nodes,
      ∃ name, node.tag = Tag.qualify target.version name := by
  obtain ⟨hreject, hvalue⟩ := (card.emits_iff target.version p).1 hemits
  have htext := Property.text_of_hasValue hvalue target.mode
  refine ⟨htext, ?_, Parameters.entries_eq_map_names _, exists_tag_eq_of_mem_nodes_shape⟩
  rw [writeProperty_eq_written hreject hvalue, elementOf_eq_shape, cleaningNotes_eq]
  simp only [ne_eq, Xml.clean_eq_self_iff_isText]
  rfl

/-- A property whose hook marks its parameters, with characters that XML cannot hold in its value
and in a parameter. -/
def markedProperty : Property :=
  { Property.hooked .marking "TITLE" (some "a,\x01b") with
    parameters := (Parameters.empty.put "x-p" "1\x02").put "geo" "g" }

def markedCard : Card where
  standard := [markedProperty]

/-- The mark and the parameters that were there have their holders, the replaced value type has
none. -/
theorem writeProperty_eq_shape_markedCard :
    markedCard.Emits .v40 markedProperty ∧
      writeProperty {} markedCard markedProperty = .written {
        tag := Tag.qualify .v40 "title"
        children := [
          { tag := Tag.qualify .v40 "parameters"
            children := [
              { tag := Tag.qualify .v40 "x-p"
                children := [{ tag := Tag.qualify .v40 "unknown", text := some "1" }] },
              { tag := Tag.qualify .v40 "geo"
                children := [{ tag := Tag.qualify .v40 "uri", text := some "g" }] },
              { tag := Tag.qualify .v40 "x-hook"
                children := [{ tag := Tag.qualify .v40 "unknown", text := some "4.0" }] }] },
          { tag := Tag.qualify .v40 "text", text := some "a\\,b" }] }
        ["hooked RFC 1", illegalWarning "TITLE"] := by
  have hemits : markedCard.Emits ({} : Target).version markedProperty := by decide
  obtain ⟨-, hwritten, -⟩ := writeProperty_eq_shape hemits
  exact ⟨hemits, hwritten.trans rfl⟩

end XCard

end ContactCard
