import ContactCard.Description.Card
import ContactCard.Proofs.JValue
import ContactCard.Proofs.Text.Escapes
import ContactCard.Proofs.XCard

/-!
# Values read back

A property of the class that a value was written for can read the value from the record.
From jCard it gets back what was written, character for character, except that an empty list
has become one empty text.  From xCard it gets what stands in the text child of the element:
the value as plain text writes it, which is the value itself only while nothing in it is
escaped, and nothing at all in the classes that look for their values in another child.
-/

namespace ContactCard

/-! ## Values of one class -/

namespace Property

/-- Whether two properties are of one class, whatever they hold. -/
def SameClass (q p : Property) : Prop :=
  match q.body, p.body with
  | .text cls _, .text other _ => cls = other
  | .list cls _ _, .list other _ _ => cls = other
  | _, _ => False

/-- The property with the value of another one of its class. -/
def withValueOf (q p : Property) : Property :=
  match p.body with
  | .text _ value => q.setValue value
  | .list _ _ values => q.setValues values

/-- What two properties of one class can be. -/
theorem SameClass.cases {q p : Property} (hclass : q.SameClass p) :
    (∃ cls held value, q.body = .text cls held ∧ p.body = .text cls value) ∨
      ∃ cls separator held other values,
        q.body = .list cls separator held ∧ p.body = .list cls other values := by
  rw [SameClass] at hclass
  split at hclass
  · next cls held _ value hq hp => exact .inl ⟨cls, held, value, hq, hclass ▸ hp⟩
  · next cls separator held _ other values hq hp =>
    exact .inr ⟨cls, separator, held, other, values, hq, hclass ▸ hp⟩
  · exact hclass.elim

end Property

/-! ## jCard -/

theorem JValue.ofJson_texts (dataType : String) (texts : List String) :
    JValue.ofJson dataType (texts.map .text) = .ok ⟨dataType, texts.map fun s => [s]⟩ := by
  refine JValue.ofJson_eq_ok_iff.2 ⟨List.forall_mem_map.2 fun s _ => rfl, ?_⟩
  rw [List.map_map]
  rfl

theorem JValue.heads_texts (texts : List String) :
    (texts.map fun s => [s]).filterMap List.head? = texts := by
  rw [List.filterMap_map]
  exact List.filterMap_some

/-- A list takes all texts, a single text the first. -/
theorem Property.readJValue_texts (q : Property) (dataType : String) (texts : List String) :
    q.readJValue ⟨dataType, texts.map fun s => [s]⟩ =
      match q.body with
      | .text .. => q.setValue texts.head?
      | .list .. => q.setValues texts := by
  obtain ⟨name, group, parameters, body⟩ := q
  cases body <;>
    simp only [Property.readJValue, JValue.heads_texts, Property.setValue, Property.setValues]

namespace JCard

/-- The texts in the entry of a property: an empty list has an empty one. -/
def textsOf (p : Property) : List String :=
  match p.body with
  | .text _ value => [value.getD ""]
  | .list _ _ values => if values = [] then [""] else values

theorem textsOf_ne_nil (p : Property) : textsOf p ≠ [] := by
  rw [textsOf]
  split
  · simp
  · split <;> simp_all

theorem trailing_texts (dataType : String) (texts : List String) :
    trailing ⟨dataType, texts.map fun s => [s]⟩ =
      (if texts = [] then [""] else texts).map .text := by
  have hjson : JValue.toJson ⟨dataType, texts.map fun s => [s]⟩ = texts.map .text := by
    rw [JValue.toJson, List.map_map]
    rfl
  rw [trailing, hjson]
  cases texts <;> rfl

theorem values_entryOf (target : Target) (card : Card) (label : Scalar) (p : Property) :
    (entryOf target card label p).values = (textsOf p).map .text := by
  obtain ⟨name, group, parameters, body⟩ := p
  cases body with
  | text cls value =>
      have hvalue : (Property.jValue ⟨name, group, parameters, .text cls value⟩).result =
          ⟨cls.dataType, [[value.getD ""]]⟩ := by
        cases cls <;> rfl
      rw [entryOf, hvalue]
      exact trailing_texts cls.dataType [value.getD ""]
  | list cls separator values => exact trailing_texts "text" values

/-- An array of at least four elements, whose values from the fourth on are a jCard value.  From
it every property of the class of `p` reads the value of `p`, whatever it held before.  An empty
list comes as one empty text. -/
def ReadsBack (array : Value) (p : Property) : Prop :=
  ∃ object dataType first rest v,
    array = .list (.text (Text.lower p.name) :: object :: .text dataType :: first :: rest) ∧
      JValue.ofJson dataType (first :: rest) = .ok v ∧
      ∀ q : Property, q.SameClass p →
        q.readJValue v = if p.isList ∧ p.values = [] then q.setValues [""] else q.withValueOf p

theorem readsBack_entryOf {p : Property} (hvalue : p.hasValue = true) (target : Target)
    (card : Card) (label : Scalar) :
    ReadsBack (entryOf target card label p).toValue p := by
  obtain ⟨first, rest, htexts⟩ := List.exists_cons_of_ne_nil (textsOf_ne_nil p)
  refine ⟨.mapping ((entryOf target card label p).parameters.map fun entry =>
      (Scalar.text entry.1, entry.2)), (entryOf target card label p).dataType, .text first,
    rest.map .text, ⟨(entryOf target card label p).dataType, (first :: rest).map fun s => [s]⟩,
    ?_, ?_, ?_⟩
  · rw [Entry.toValue, values_entryOf, htexts]
    rfl
  · exact JValue.ofJson_texts _ (first :: rest)
  · intro q hclass
    rw [← htexts, Property.readJValue_texts]
    obtain ⟨cls, held, value, hq, hp⟩ | ⟨cls, _, held, separator, values, hq, hp⟩ := hclass.cases
    · obtain ⟨s, rfl⟩ : ∃ s, value = some s := by
        simpa [Property.hasValue, hp, Option.isSome_iff_exists] using hvalue
      simp [hq, hp, textsOf, Property.isList, Property.withValueOf]
    · simp only [hq, hp, textsOf, Property.isList, Property.values, Property.withValueOf, true_and]
      split <;> rfl

/-- Every entry of a record after that of the version reads back to the value of its
property, for every card whose groups are absent or text. -/
theorem entries_readBack {card : Card} (hgroups : ∀ p ∈ card.properties, p.HasNamedGroup)
    (target : Target) :
    ∃ r entries, record target card = .ok r ∧
      recordValue r.output =
        .list [.text "vcard", .list ((Entry.ofVersion target.version).toValue :: entries)] ∧
      List.Forall₂ ReadsBack entries (card.emitted target) := by
  refine ⟨_, (card.emitted target).map fun p =>
    (entryOf target card (Scalar.ofName? p.groupName?) p).toValue,
    record_eq_byName hgroups target, ?_, ?_⟩
  · rw [Card.gather, assemble_byName, recordValue, List.map_cons, List.map_map]
    rfl
  · rw [List.forall₂_map_left_iff, List.forall₂_same]
    intro p hp
    exact readsBack_entryOf (Card.mem_emitted.1 hp).2.2.2 target card _

/-- A card with an empty list, a list with an empty text and a text twice, and a value
with everything that plain text escapes. -/
def listsCard : Card where
  standard := [
    .formattedName (some "Lee\\, Ann;\n"),
    .nickname [],
    { Property.categories ["a", "", "a"] with group := .text "home" }]

/-- They are all read back, the empty list as one empty text. -/
theorem entries_readBack_listsCard :
    (∀ p ∈ listsCard.properties, p.HasNamedGroup) ∧
      ∃ r entries, record { addGenerator := false } listsCard = .ok r ∧
        recordValue r.output =
          .list [.text "vcard", .list ((Entry.ofVersion .v40).toValue :: entries)] ∧
        List.Forall₂ ReadsBack entries listsCard.standard := by
  have hgroups : ∀ p ∈ listsCard.properties, p.HasNamedGroup := by
    simp [listsCard, Card.properties, Roster.members, Roster.allExtended,
      Property.HasNamedGroup, Property.formattedName, Property.nickname, Property.categories]
  obtain ⟨r, entries, hr, hvalue, hentries⟩ :=
    entries_readBack hgroups { addGenerator := false }
  exact ⟨hgroups, r, entries, hr, hvalue, hentries⟩

end JCard

/-! ## xCard -/

namespace XCard

/-- Text of characters that XML can hold, none of which is escaped beside the delimiters. -/
def IsBare (delimiters : List Char) (s : String) : Prop :=
  ∀ c ∈ s.toList, Xml.IsChar c ∧ c ∉ '\\' :: (delimiters ++ ['\r', '\n'])

instance (delimiters : List Char) (s : String) : Decidable (IsBare delimiters s) :=
  List.decidableBAll (fun c => Xml.IsChar c ∧ c ∉ '\\' :: (delimiters ++ ['\r', '\n'])) s.toList

/-- Whether the element of a property shows its value: the value is one text, stands in the
child that the class reads, and is written there as it is. -/
def ShowsValue (p : Property) : Prop :=
  match p.body with
  | .text cls value => cls.dataType = "text" ∧ ∃ s, value = some s ∧ IsBare [',', ';'] s
  | .list _ separator values => ∃ s, values = [s] ∧ IsBare [separator] s

/-- Cleaned text is the text itself when it is written as it is and XML can hold it. -/
theorem clean_eq_iff {encode : List Char → List Char} {s : String}
    (hencode : ∀ x ∈ encode s.toList, x ∈ s.toList ∨ x = '\\' ∨ x = 'n') :
    Xml.clean (.ofList (encode s.toList)) = s ↔
      (∀ c ∈ s.toList, Xml.IsChar c) ∧ encode s.toList = s.toList := by
  have hlegal : (∀ c ∈ s.toList, Xml.IsChar c) →
      (encode s.toList).filter Xml.isLegal = encode s.toList := by
    intro hs
    rw [List.filter_eq_self]
    intro x hx
    rw [Xml.isLegal_iff]
    rcases hencode x hx with hmem | rfl | rfl
    · exact hs x hmem
    · decide
    · decide
  rw [← String.toList_inj, Xml.clean, String.toList_ofList, String.toList_ofList]
  constructor
  · intro heq
    have hs : ∀ c ∈ s.toList, Xml.IsChar c := by
      intro c hc
      rw [← heq] at hc
      exact (Xml.isLegal_iff c).1 (List.mem_filter.1 hc).2
    exact ⟨hs, (hlegal hs).symm.trans heq⟩
  · rintro ⟨hs, heq⟩
    rw [hlegal hs, heq]

theorem isBare_iff (delimiters : List Char) (s : String) :
    IsBare delimiters s ↔ (∀ c ∈ s.toList, Xml.IsChar c) ∧
      ∀ c ∈ s.toList, c ∉ '\\' :: (delimiters ++ ['\r', '\n']) :=
  forall₂_and

theorem clean_escapeText_eq_iff (s : String) :
    Xml.clean (Text.escapeText s) = s ↔ IsBare [',', ';'] s := by
  rw [Text.escapeText, clean_eq_iff fun x => Text.Escape.mem_encodeText,
    Text.Escape.encodeText_eq_self_iff, isBare_iff]
  rfl

theorem clean_joinFields_eq_iff (separator : Char) (s : String) :
    Xml.clean (Text.joinFields separator [s]) = s ↔ IsBare [separator] s := by
  have hjoin : Text.joinFields separator [s] =
      .ofList (Text.Escape.encode separator s.toList) := by
    simp [Text.joinFields, Text.Fields.join, Text.Fields.glue]
  rw [hjoin, clean_eq_iff fun x => Text.Escape.mem_encode,
    Text.Escape.encode_eq_self_iff, isBare_iff]
  rfl

/-- What a property reads from the element of another one of its class. -/
theorem readElement_elementOf {q p : Property} (hclass : q.SameClass p) (target : Target)
    (card : Card) :
    q.readElement (elementOf target card p) =
      match p.body with
      | .text cls _ =>
        q.setValue (if cls.dataType = "text" then some (Xml.clean p.plainValue) else none)
      | .list .. => q.setValues [Xml.clean p.plainValue] := by
  obtain ⟨cls, held, value, hq, hp⟩ | ⟨cls, _, held, separator, values, hq, hp⟩ := hclass.cases
  · have hname : cls.dataType ≠ "parameters" := by
      cases cls <;> simp [TextClass.dataType]
    simp only [hq, hp, Property.readElement, Property.holderName, Property.setValue,
      Element.firstText?, texts_elementOf_of_ne hname]
    split <;> rfl
  · simp only [hq, hp, Property.readElement, Property.holderName, Property.setValues,
      texts_elementOf]

/-- An element gives the value back exactly when it shows it. -/
theorem readElement_eq_iff {q p : Property} (hclass : q.SameClass p) (hvalue : p.hasValue = true)
    (target : Target) (card : Card) :
    q.readElement (elementOf target card p) = q.withValueOf p ↔ ShowsValue p := by
  rw [readElement_elementOf hclass]
  obtain ⟨cls, held, value, hq, hp⟩ | ⟨cls, _, held, separator, values, hq, hp⟩ := hclass.cases
  · obtain ⟨s, rfl⟩ : ∃ s, value = some s := by
      simpa [Property.hasValue, hp, Option.isSome_iff_exists] using hvalue
    have hset : ∀ first second, q.setValue first = q.setValue second ↔ first = second := by
      intro first second
      simp [Property.setValue, hq]
    simp only [hp, Property.withValueOf, hset, ShowsValue, Option.some.injEq, exists_eq_left']
    by_cases htext : cls.dataType = "text"
    · have hplain : p.plainValue = Text.escapeText s := by
        cases cls <;> simp_all [Property.plainValue, TextClass.dataType, TextClass.encode]
      rw [if_pos htext, hplain, Option.some.injEq, clean_escapeText_eq_iff]
      exact (and_iff_right htext).symm
    · simp [htext]
  · have hset : ∀ first second, q.setValues first = q.setValues second ↔ first = second := by
      intro first second
      simp [Property.setValues, hq]
    simp only [hp, Property.withValueOf, hset, ShowsValue, Property.plainValue]
    constructor
    · intro hvalues
      refine ⟨Xml.clean (Text.joinFields separator values), hvalues.symm, ?_⟩
      rw [← clean_joinFields_eq_iff, hvalues]
    · rintro ⟨s, rfl, hs⟩
      rw [(clean_joinFields_eq_iff separator s).2 hs]

/-- Every emitted property has an element in its place.  A property of its class reads from
it the cleaned plain-text value, in the classes that look for a child of text, and this is the
value exactly when it is one text that is written as it is. -/
theorem elements_readBack_iff {target : Target} {card : Card} {r : Record Element}
    (hr : record target card = .ok r) :
    ∃ placed : List (Scalar × Property),
      (placed.map (·.2)).Perm
        ((card.listed target.addGenerator).filter (card.Emits target.version)) ∧
      members r.output = placed.map (fun entry => (entry.1, elementOf target card entry.2)) ∧
      ∀ label p, (label, p) ∈ placed → ∀ q : Property, q.SameClass p →
        (q.readElement (elementOf target card p) =
          match p.body with
          | .text cls _ =>
            q.setValue (if cls.dataType = "text" then some (Xml.clean p.plainValue) else none)
          | .list .. => q.setValues [Xml.clean p.plainValue]) ∧
        (q.readElement (elementOf target card p) = q.withValueOf p ↔ ShowsValue p) := by
  obtain ⟨buckets, hbuckets, houtput⟩ := record_ok hr
  have hperm : ((card.emittedIn target.version buckets).map (·.2)).Perm
      ((card.listed target.addGenerator).filter (card.Emits target.version)) := by
    rw [Card.snd_emittedIn]
    exact (Card.buckets_ok hbuckets).1.filter _
  refine ⟨card.emittedIn target.version buckets, hperm, ?_, ?_⟩
  · rw [houtput, members_assemble_buckets]
  · intro label p hplaced q hclass
    have hemits : card.Emits target.version p := by
      have hmem := hperm.mem_iff.1 (List.mem_map_of_mem hplaced)
      simpa using (List.mem_filter.1 hmem).2
    exact ⟨readElement_elementOf hclass target card,
      readElement_eq_iff hclass hemits.2.2 target card⟩

/-- A description of a name and two nicknames, and the card that it describes. -/
def nicknamesDescription : Value := .mapping [
  (.text "fn", .text "Ann"), (.text "nickname", .list [.text "Anna", .text "Ann"])]

def nicknamesCard : Card where
  standard := [.formattedName (some "Ann"), .nickname ["Anna", "Ann"]]

/-- The name is read back, the nicknames are not. -/
theorem elements_readBack_nicknamesCard :
    ∃ r, ∃ placed : List (Scalar × Property),
      record { addGenerator := false } nicknamesCard = .ok r ∧
      (placed.map (·.2)).Perm nicknamesCard.standard ∧
      members r.output = placed.map (fun entry =>
        (entry.1, elementOf { addGenerator := false } nicknamesCard entry.2)) ∧
      ∀ label p, (label, p) ∈ placed → ∀ q : Property, q.SameClass p →
        (q.readElement (elementOf { addGenerator := false } nicknamesCard p) = q.withValueOf p ↔
          p.isText = true) := by
  obtain ⟨r, hr⟩ : ∃ r, record { addGenerator := false } nicknamesCard = .ok r := ⟨_, rfl⟩
  obtain ⟨placed, hperm, hmembers, hread⟩ := elements_readBack_iff hr
  refine ⟨r, placed, hr, hperm, hmembers, fun label p hplaced q hclass => ?_⟩
  rw [(hread label p hplaced q hclass).2]
  have hp : p ∈ nicknamesCard.standard := hperm.mem_iff.1 (List.mem_map_of_mem hplaced)
  rcases List.mem_cons.1 hp with rfl | hlast
  · exact iff_of_true ⟨rfl, "Ann", rfl, by decide⟩ rfl
  · obtain rfl := List.mem_singleton.1 hlast
    refine iff_of_false ?_ (by decide)
    rintro ⟨s, hs, -⟩
    cases hs

/-- Two nicknames, of characters that XML can hold and none of them escaped, are read back as
one. -/
theorem not_readsBack_nicknames :
    ∃ r name nicknames, Card.ofValue nicknamesDescription = .ok nicknamesCard ∧
      record { addGenerator := false } nicknamesCard = .ok r ∧
      members r.output = [(.null, name), (.null, nicknames)] ∧
      nicknames = elementOf { addGenerator := false } nicknamesCard (.nickname ["Anna", "Ann"]) ∧
      (∀ s ∈ ["Anna", "Ann"], IsBare [','] s) ∧
      (Property.nickname []).SameClass (.nickname ["Anna", "Ann"]) ∧
      (Property.nickname []).readElement nicknames = .nickname ["Anna,Ann"] ∧
      (Property.nickname []).readElement nicknames ≠
        (Property.nickname []).withValueOf (.nickname ["Anna", "Ann"]) := by
  have hread : (Property.nickname []).readElement
      (elementOf { addGenerator := false } nicknamesCard (.nickname ["Anna", "Ann"])) =
        .nickname ["Anna,Ann"] := rfl
  refine ⟨_, _, _, rfl, rfl, rfl, rfl, by decide, rfl, hread, ?_⟩
  intro heq
  have hvalues : ["Anna,Ann"] = ["Anna", "Ann"] :=
    congrArg Property.values (hread.symm.trans heq)
  exact absurd hvalues (by decide)

end XCard

end ContactCard
