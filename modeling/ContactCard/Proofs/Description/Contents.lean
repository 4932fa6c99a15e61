import ContactCard.Proofs.Description.Piece
import ContactCard.Proofs.Ledger

/-!
# What a description stands for

A description that is read gives a card of just the properties that its pieces stand for: the
standard ones in the order of the keys, the extended ones name by name.  Nothing is added, lost
or merged.  It is read exactly when every piece can be: a text or list entry has only the keys of
its place, a text is a single value, an extended entry has a name, and parameters are a mapping or
nothing.
-/

namespace ContactCard

namespace Description

/-! ## The parts of an entry -/

/-- The value of an entry: what a mapping has under a word, or a bare entry itself. -/
def valueIn (word : String) : Value → Value
  | .mapping entries => under entries word
  | v => v

/-- What an entry has under a word besides its value; a bare entry has nothing. -/
def partIn (word : String) : Value → Value
  | .mapping entries => under entries word
  | _ => .null

/-- The keys of an entry that are none of the words it may have. -/
def straysIn (words : List String) : Value → List Scalar
  | .mapping entries => (Keyed.keys entries).filter fun key => key ∉ words.map Scalar.text
  | _ => []

/-- The words that an entry may have besides the one for its value. -/
def entryWords (valueWord : String) : List String := [valueWord, "group", "parameters"]

/-- The text of a single value, none for `null`. -/
def text? : Value → Option String
  | .null => none
  | v => some v.spell

/-- The values of a list, none for `null`. -/
def listed : Value → List Value
  | .null => []
  | v => valuesOf v

/-- The values of a mapping in order, each with its name. -/
def named : Value → List (Scalar × Value)
  | .mapping entries => entries.flatMap fun entry => (valuesOf entry.2).map fun v => (entry.1, v)
  | _ => []

/-- The table in which every named value is put, one after another. -/
def tableOf (v : Value) : Parameters :=
  (named v).foldl (fun t entry => t.put entry.1.spell entry.2.spell) .empty

/-- A property with the group and the parameters of an entry. -/
def complete (raw : Value) (p : Property) : Property :=
  { p with group := partIn "group" raw, parameters := tableOf (partIn "parameters" raw) }

namespace Piece

/-! ## What a piece stands for -/

def standard? : Piece → Option Property
  | .text key raw => some (complete raw (key.make (text? (valueIn "value" raw))))
  | .list key raw =>
    some (complete raw (key.make ((listed (valueIn "values" raw)).map Value.spell)))
  | .extended _ | .unknown _ | .noItems => none

def extended? : Piece → Option Property
  | .extended raw =>
    some (complete raw (.raw (partIn "name" raw).spell (text? (partIn "value" raw))))
  | .text .. | .list .. | .unknown _ | .noItems => none

def property? (piece : Piece) : Option Property := piece.standard?.or piece.extended?

end Piece

/-! ## What can be read -/

/-- A value that is neither a list nor a mapping. -/
def IsSingle (v : Value) : Prop := (∀ items, v ≠ .list items) ∧ ∀ entries, v ≠ .mapping entries

/-- Parameters that can be put into a table: a mapping in which names and values have a spelling,
or a value that does not hold. -/
def IsTable (v : Value) : Prop :=
  ((∃ entries, v = .mapping entries) ∨ v.holds = false) ∧
    ∀ entry ∈ named v, entry.1.isSpelled = true ∧ entry.2.isSpelled = true

def Piece.IsReadable : Piece → Prop
  | .text _ raw =>
    straysIn (entryWords "value") raw = [] ∧ IsSingle (valueIn "value" raw) ∧
      (valueIn "value" raw).isSpelled = true ∧ IsTable (partIn "parameters" raw)
  | .list _ raw =>
    straysIn (entryWords "values") raw = [] ∧
      (∀ v ∈ listed (valueIn "values" raw), v.isSpelled = true) ∧
      IsTable (partIn "parameters" raw)
  | .extended raw =>
    (∃ entries, raw = .mapping entries ∧ .text "name" ∈ Keyed.keys entries) ∧
      (partIn "name" raw).isSpelled = true ∧ (partIn "value" raw).isSpelled = true ∧
      IsTable (partIn "parameters" raw)
  | .unknown _ | .noItems => False

/-! ## Reading the parts -/

theorem same_text_iff {key : Scalar} {word : String} :
    Key.same key (.text word) = true ↔ key = .text word := by
  cases key <;> simp [Key.same, Scalar.same, Scalar.number?]

theorem isSome_lookup_text_iff {entries : Keyed Scalar Value} {word : String} :
    (entries.lookup (.text word)).isSome = true ↔ .text word ∈ entries.keys := by
  simp [Keyed.lookup, Keyed.keys, same_text_iff]

theorem spelling_eq_ok_iff {v : Value} {s : String} :
    spelling v = .ok s ↔ v.isSpelled = true ∧ s = v.spell := by
  rw [spelling, Value.spelled?]
  by_cases hv : v.isSpelled = true
  · simp [hv, eq_comm]
  · simp [hv]

theorem spelling?_eq_ok_iff {v : Value} {s : Option String} :
    spelling? v = .ok s ↔ v.isSpelled = true ∧ s = text? v := by
  fun_cases spelling? v with
  | case1 =>
      have hspelled : Value.null.isSpelled = true := rfl
      simp [text?, hspelled, eq_comm]
  | case2 _ hnull =>
      rw [map_eq_ok, text?]
      · constructor
        · rintro ⟨written, hwritten, rfl⟩
          obtain ⟨hspelled, rfl⟩ := spelling_eq_ok_iff.1 hwritten
          exact ⟨hspelled, rfl⟩
        · rintro ⟨hspelled, rfl⟩
          exact ⟨v.spell, spelling_eq_ok_iff.2 ⟨hspelled, rfl⟩, rfl⟩
      · exact hnull

theorem mapM_spelling_eq_ok_iff {values : List Value} {texts : List String} :
    values.mapM spelling = .ok texts ↔
      (∀ v ∈ values, v.isSpelled = true) ∧ texts = values.map Value.spell :=
  mapM_eq_ok_iff fun _ _ => spelling_eq_ok_iff

theorem withParameter_eq_ok_iff {t u : Parameters} {name : Scalar} {values : List Value} :
    withParameter t name values = .ok u ↔
      (∀ v ∈ values, name.isSpelled = true ∧ v.isSpelled = true) ∧
        u = t.putAll name.spell (values.map Value.spell) := by
  cases values with
  | nil =>
      have hnone : withParameter t name [] = .ok t := rfl
      rw [hnone, Except.ok.injEq, eq_comm]
      exact (and_iff_right (by simp)).symm
  | cons v rest =>
      rw [withParameter, List.isEmpty_cons, if_neg Bool.false_ne_true, bind_eq_ok]
      constructor
      · rintro ⟨written, hwritten, hrest⟩
        obtain ⟨hname, rfl⟩ := spelling_eq_ok_iff.1 hwritten
        obtain ⟨texts, htexts, hput⟩ := bind_eq_ok.1 hrest
        obtain ⟨hvalues, rfl⟩ := mapM_spelling_eq_ok_iff.1 htexts
        exact ⟨fun w hw => ⟨hname, hvalues w hw⟩, (Except.ok.inj hput).symm⟩
      · rintro ⟨hvalues, rfl⟩
        have hname : name.isSpelled = true := (hvalues v List.mem_cons_self).1
        exact ⟨name.spell, spelling_eq_ok_iff.2 ⟨hname, rfl⟩, bind_eq_ok.2
          ⟨_, mapM_spelling_eq_ok_iff.2 ⟨fun w hw => (hvalues w hw).2, rfl⟩, rfl⟩⟩

theorem tableOf_mapping (entries : List (Scalar × Value)) :
    tableOf (.mapping entries) = entries.foldl
      (fun t entry => t.putAll entry.1.spell ((valuesOf entry.2).map Value.spell)) .empty := by
  rw [tableOf, named, List.foldl_flatMap]
  simp only [Parameters.putAll, List.foldl_map]

theorem isTable_mapping_iff (entries : List (Scalar × Value)) :
    IsTable (.mapping entries) ↔ ∀ entry ∈ entries, ∀ v ∈ valuesOf entry.2,
      entry.1.isSpelled = true ∧ v.isSpelled = true := by
  simp only [IsTable, named, List.forall_mem_flatMap, List.forall_mem_map]
  exact and_iff_right (.inl ⟨entries, rfl⟩)

/-- Parameters are read exactly when they can be put into a table. -/
theorem parameters_eq_ok_iff {field : String} {v : Value} {t : Parameters} :
    parameters field v = .ok t ↔ IsTable v ∧ t = tableOf v := by
  fun_cases parameters field v with
  | case1 entries =>
      rw [isTable_mapping_iff, tableOf_mapping]
      exact foldlM_eq_ok_iff
        (P := fun entry : Scalar × Value =>
          ∀ v ∈ valuesOf entry.2, entry.1.isSpelled = true ∧ v.isSpelled = true)
        fun _ _ _ => withParameter_eq_ok_iff
  | case2 v hmapping hholds =>
      have hnot : ¬IsTable v := by
        rintro ⟨⟨entries, rfl⟩ | hfalse, -⟩
        · exact hmapping entries rfl
        · rw [hholds] at hfalse
          cases hfalse
      simp [hnot]
  | case3 v hmapping hholds =>
      have hnamed : named v = [] := by
        rw [named]
        exact hmapping
      have htable : IsTable v := ⟨.inr (by simpa using hholds), by simp [hnamed]⟩
      simp [htable, tableOf, hnamed, eq_comm]

/-- An entry is read when it has no stray keys.  Otherwise these are put in order for the fault
that is reported, where they have one. -/
theorem Entry.read_eq (field valueWord : String) (raw : Value) :
    Entry.read field valueWord raw =
      match straysIn (entryWords valueWord) raw with
      | [] => .ok ⟨valueIn valueWord raw, partIn "group" raw, partIn "parameters" raw⟩
      | strays =>
        match Scalar.sorted? strays with
        | some keys => .error (DescriptionFault.unknownEntryKeys field keys).error
        | none => .error .mixedKeys := by
  cases raw with
  | mapping entries =>
      have hstrays : ((Keyed.keys entries).filter fun key =>
          !(entryWords valueWord).any fun word => key == .text word) =
            straysIn (entryWords valueWord) (.mapping entries) := by
        apply List.filter_congr
        intro key _
        rw [Bool.eq_iff_iff, Bool.not_eq_true', List.any_eq_false, decide_eq_true_iff]
        simp only [beq_iff_eq, List.mem_map, not_exists, not_and]
        simp only [eq_comm]
      rw [← hstrays]
      rfl
  | scalar s => rfl
  | list items => rfl
  | pair first second => rfl

theorem Entry.read_eq_ok_iff {field valueWord : String} {raw : Value} {entry : Entry} :
    Entry.read field valueWord raw = .ok entry ↔
      straysIn (entryWords valueWord) raw = [] ∧
        entry = ⟨valueIn valueWord raw, partIn "group" raw, partIn "parameters" raw⟩ := by
  rw [Entry.read_eq]
  split
  · next hnone =>
      rw [Except.ok.injEq, eq_comm]
      exact (and_iff_right hnone).symm
  · next hsome =>
      refine iff_of_false ?_ fun h => hsome h.1
      split <;> simp

theorem finish_eq_ok_iff {field : String} {entry : Entry} {made p : Property} :
    finish field entry made = .ok p ↔ IsTable entry.parameters ∧
      p = { made with group := entry.group, parameters := tableOf entry.parameters } := by
  rw [finish, bind_eq_ok]
  constructor
  · rintro ⟨t, ht, hp⟩
    obtain ⟨htable, rfl⟩ := parameters_eq_ok_iff.1 ht
    exact ⟨htable, (Except.ok.inj hp).symm⟩
  · rintro ⟨htable, rfl⟩
    exact ⟨_, parameters_eq_ok_iff.2 ⟨htable, rfl⟩, rfl⟩

/-! ## Reading the pieces -/

/-- Refuses a list or a mapping where a single value is wanted. -/
def checkSingle (field : String) : Value → Except DescriptionError Unit
  | .list _ | .mapping _ => .error (.invalid (.notSingle field))
  | .scalar _ | .pair _ _ => .ok ()

theorem checkSingle_eq_ok_iff {field : String} {v : Value} :
    checkSingle field v = .ok () ↔ IsSingle v := by
  cases v <;> simp [checkSingle, IsSingle]

theorem textProperty_eq (field : String) (make : Option String → Property) (raw : Value) :
    textProperty field make raw = (do
      let entry ← Entry.read field "value" raw
      checkSingle field entry.value
      finish field entry (make (← spelling? entry.value))) := by
  apply bind_congr
  rintro ⟨value, group, parameters⟩
  cases value <;> rfl

theorem listProperty_eq (field : String) (make : List String → Property) (raw : Value) :
    listProperty field make raw = (do
      let entry ← Entry.read field "values" raw
      finish field entry (make (← (listed entry.value).mapM spelling))) := by
  apply bind_congr
  rintro ⟨value, group, parameters⟩
  cases value with
  | scalar s => cases s <;> rfl
  | list items => rfl
  | mapping entries => rfl
  | pair first second => rfl

theorem read_text_eq_ok_iff {key : TextKey} {raw : Value} {p : Property} :
    (Piece.text key raw).read = .ok p ↔ (Piece.text key raw).IsReadable ∧
      (Piece.text key raw).property? = some p := by
  have hmade : (Piece.text key raw).property? =
      some (complete raw (key.make (text? (valueIn "value" raw)))) := rfl
  rw [Piece.read, textProperty_eq, bind_eq_ok, hmade, Option.some.injEq]
  constructor
  · rintro ⟨entry, hentry, hp⟩
    obtain ⟨hstrays, rfl⟩ := Entry.read_eq_ok_iff.1 hentry
    obtain ⟨_, hcheck, hp⟩ := bind_eq_ok.1 hp
    obtain ⟨value, hvalue, hp⟩ := bind_eq_ok.1 hp
    obtain ⟨hspelled, rfl⟩ := spelling?_eq_ok_iff.1 hvalue
    obtain ⟨htable, rfl⟩ := finish_eq_ok_iff.1 hp
    exact ⟨⟨hstrays, checkSingle_eq_ok_iff.1 hcheck, hspelled, htable⟩, rfl⟩
  · rintro ⟨⟨hstrays, hsingle, hspelled, htable⟩, rfl⟩
    refine ⟨_, Entry.read_eq_ok_iff.2 ⟨hstrays, rfl⟩, ?_⟩
    refine bind_eq_ok.2 ⟨(), checkSingle_eq_ok_iff.2 hsingle, ?_⟩
    refine bind_eq_ok.2 ⟨_, spelling?_eq_ok_iff.2 ⟨hspelled, rfl⟩, ?_⟩
    exact finish_eq_ok_iff.2 ⟨htable, rfl⟩

theorem read_list_eq_ok_iff {key : ListKey} {raw : Value} {p : Property} :
    (Piece.list key raw).read = .ok p ↔ (Piece.list key raw).IsReadable ∧
      (Piece.list key raw).property? = some p := by
  have hmade : (Piece.list key raw).property? =
      some (complete raw (key.make ((listed (valueIn "values" raw)).map Value.spell))) := rfl
  rw [Piece.read, listProperty_eq, bind_eq_ok, hmade, Option.some.injEq]
  constructor
  · rintro ⟨entry, hentry, hp⟩
    obtain ⟨hstrays, rfl⟩ := Entry.read_eq_ok_iff.1 hentry
    obtain ⟨values, hvalues, hp⟩ := bind_eq_ok.1 hp
    obtain ⟨hspelled, rfl⟩ := mapM_spelling_eq_ok_iff.1 hvalues
    obtain ⟨htable, rfl⟩ := finish_eq_ok_iff.1 hp
    exact ⟨⟨hstrays, hspelled, htable⟩, rfl⟩
  · rintro ⟨⟨hstrays, hspelled, htable⟩, rfl⟩
    refine ⟨_, Entry.read_eq_ok_iff.2 ⟨hstrays, rfl⟩, ?_⟩
    refine bind_eq_ok.2 ⟨_, mapM_spelling_eq_ok_iff.2 ⟨hspelled, rfl⟩, ?_⟩
    exact finish_eq_ok_iff.2 ⟨htable, rfl⟩

theorem read_extended_eq_ok_iff {raw : Value} {p : Property} :
    (Piece.extended raw).read = .ok p ↔ (Piece.extended raw).IsReadable ∧
      (Piece.extended raw).property? = some p := by
  have hmade : (Piece.extended raw).property? =
      some (complete raw (.raw (partIn "name" raw).spell (text? (partIn "value" raw)))) := rfl
  rw [hmade, Option.some.injEq]
  cases raw with
  | mapping entries =>
      rw [Piece.read, extendedProperty]
      split
      · next hnone =>
          have hname : Scalar.text "name" ∉ Keyed.keys entries := by
            rw [← isSome_lookup_text_iff, hnone]
            exact Bool.false_ne_true
          refine iff_of_false nofun ?_
          rintro ⟨⟨⟨_, heq, hmem⟩, -⟩, -⟩
          obtain rfl := Value.mapping.inj heq
          exact hname hmem
      · next name hsome =>
          have hname : Scalar.text "name" ∈ Keyed.keys entries := by
            rw [← isSome_lookup_text_iff, hsome]
            rfl
          obtain rfl : under entries "name" = name := by rw [under, hsome, Option.getD_some]
          rw [bind_eq_ok]
          constructor
          · rintro ⟨written, hwritten, hp⟩
            obtain ⟨hspelledName, rfl⟩ := spelling_eq_ok_iff.1 hwritten
            obtain ⟨value, hvalue, hp⟩ := bind_eq_ok.1 hp
            obtain ⟨hspelled, rfl⟩ := spelling?_eq_ok_iff.1 hvalue
            obtain ⟨htable, rfl⟩ := finish_eq_ok_iff.1 hp
            exact ⟨⟨⟨entries, rfl, hname⟩, hspelledName, hspelled, htable⟩, rfl⟩
          · rintro ⟨⟨-, hspelledName, hspelled, htable⟩, rfl⟩
            refine ⟨_, spelling_eq_ok_iff.2 ⟨hspelledName, rfl⟩, ?_⟩
            refine bind_eq_ok.2 ⟨_, spelling?_eq_ok_iff.2 ⟨hspelled, rfl⟩, ?_⟩
            exact finish_eq_ok_iff.2 ⟨htable, rfl⟩
  | scalar s => exact iff_of_false nofun nofun
  | list items => exact iff_of_false nofun nofun
  | pair first second => exact iff_of_false nofun nofun

/-- A piece that can be read is read as the property it stands for. -/
theorem Piece.read_eq_ok_iff {piece : Piece} {p : Property} :
    piece.read = .ok p ↔ piece.IsReadable ∧ piece.property? = some p := by
  cases piece with
  | text key raw => exact read_text_eq_ok_iff
  | list key raw => exact read_list_eq_ok_iff
  | extended raw => exact read_extended_eq_ok_iff
  | unknown key => exact iff_of_false nofun nofun
  | noItems => exact iff_of_false nofun nofun

theorem Piece.IsReadable.exists_property {piece : Piece} (hpiece : piece.IsReadable) :
    ∃ p, piece.property? = some p := by
  cases piece with
  | text key raw => exact ⟨_, rfl⟩
  | list key raw => exact ⟨_, rfl⟩
  | extended raw => exact ⟨_, rfl⟩
  | unknown key => exact hpiece.elim
  | noItems => exact hpiece.elim

/-! ## Cards -/

/-- A card with the property that a piece stands for. -/
def Piece.addedTo (card : Card) (piece : Piece) : Card :=
  piece.property?.elim card (piece.place card)

theorem Piece.addTo_eq_ok_iff {card next : Card} {piece : Piece} :
    piece.addTo card = .ok next ↔ piece.IsReadable ∧ next = piece.addedTo card := by
  rw [Piece.addTo, map_eq_ok]
  constructor
  · rintro ⟨p, hp, rfl⟩
    obtain ⟨hreadable, hproperty⟩ := Piece.read_eq_ok_iff.1 hp
    exact ⟨hreadable, by rw [Piece.addedTo, hproperty, Option.elim]⟩
  · rintro ⟨hreadable, rfl⟩
    obtain ⟨p, hproperty⟩ := hreadable.exists_property
    exact ⟨p, Piece.read_eq_ok_iff.2 ⟨hreadable, hproperty⟩, by
      rw [Piece.addedTo, hproperty, Option.elim]⟩

/-- A description is read exactly when all its pieces can be, and then every piece adds the
property it stands for. -/
theorem ofValue_eq_ok_iff_foldl {entries : List (Scalar × Value)} {card : Card} :
    Card.ofValue (.mapping entries) = .ok card ↔
      (∀ piece ∈ pieces (.mapping entries), piece.IsReadable) ∧
        card = (pieces (.mapping entries)).foldl Piece.addedTo .empty := by
  rw [ofValue_eq_foldlM]
  exact foldlM_eq_ok_iff (P := Piece.IsReadable) fun _ _ _ => Piece.addTo_eq_ok_iff

theorem isReadable_of_ofValue {v : Value} {card : Card} (hcard : Card.ofValue v = .ok card) :
    ∀ piece ∈ pieces v, piece.IsReadable := by
  cases v with
  | mapping entries => exact (ofValue_eq_ok_iff_foldl.1 hcard).1
  | scalar s => cases hcard
  | list items => cases hcard
  | pair first second => cases hcard

theorem Piece.standard_addedTo (card : Card) (piece : Piece) :
    (piece.addedTo card).standard = card.standard ++ piece.standard?.toList := by
  cases piece with
  | text key raw => rfl
  | list key raw => rfl
  | extended raw => exact (List.append_nil _).symm
  | unknown key => exact (List.append_nil _).symm
  | noItems => exact (List.append_nil _).symm

theorem Piece.extended_addedTo (card : Card) (piece : Piece) :
    (piece.addedTo card).extended =
      piece.extended?.elim card.extended fun p => card.extended.change (.add p.name p) := by
  cases piece with
  | extended raw =>
      have hname : Text.upper (Text.upper (partIn "name" raw).spell) =
          Text.upper (partIn "name" raw).spell := Text.upper_upper _
      exact congrArg (fun key => card.extended.alter key _) hname
  | text key raw => rfl
  | list key raw => rfl
  | unknown key => rfl
  | noItems => rfl

/-- The extended properties of some pieces, each under its name. -/
def extendedByName (row : List Piece) : List (String × Property) :=
  (row.filterMap Piece.extended?).map fun p => (p.name, p)

theorem standard_foldl_addedTo (row : List Piece) :
    (row.foldl Piece.addedTo .empty).standard = row.filterMap Piece.standard? := by
  induction row using List.reverseRecOn with
  | nil => rfl
  | append_singleton row piece ih =>
      rw [List.foldl_append, List.foldl_cons, List.foldl_nil, Piece.standard_addedTo, ih,
        List.filterMap_append]
      cases hpiece : piece.standard? <;> simp [hpiece]

theorem extended_foldl_addedTo (row : List Piece) :
    (row.foldl Piece.addedTo .empty).extended = Keyed.gathered (extendedByName row) := by
  induction row using List.reverseRecOn with
  | nil => rfl
  | append_singleton row piece ih =>
      rw [List.foldl_append, List.foldl_cons, List.foldl_nil, Piece.extended_addedTo, ih]
      cases hpiece : piece.extended? with
      | none =>
          have hrow : extendedByName (row ++ [piece]) = extendedByName row := by
            simp [extendedByName, hpiece]
          rw [hrow, Option.elim]
      | some p =>
          have hrow : extendedByName (row ++ [piece]) = extendedByName row ++ [(p.name, p)] := by
            simp [extendedByName, hpiece]
          rw [hrow, Keyed.gathered_append, Option.elim]

theorem Piece.perm_properties_addedTo (card : Card) (piece : Piece) :
    (piece.addedTo card).properties.Perm (card.properties ++ piece.property?.toList) := by
  have hstandard (p : Property) : (card.add p).properties.Perm (card.properties ++ [p]) := by
    simp only [Card.properties, Roster.members, Card.add, Roster.attach, Roster.allExtended,
      List.append_assoc]
    exact List.perm_append_comm.append_left _
  have hunchanged : card.properties.Perm (card.properties ++ []) := by rw [List.append_nil]
  cases piece with
  | text key raw => exact hstandard _
  | list key raw => exact hstandard _
  | extended raw =>
      have halter := Keyed.perm_flatMap_alter card.extended
      simp only [Card.properties, Roster.members, List.append_assoc]
      exact (halter _ _).append_left _
  | unknown key => exact hunchanged
  | noItems => exact hunchanged

theorem perm_properties_foldl_addedTo (row : List Piece) :
    (row.foldl Piece.addedTo .empty).properties.Perm (row.filterMap Piece.property?) := by
  induction row using List.reverseRecOn with
  | nil => exact List.Perm.refl []
  | append_singleton row piece ih =>
      have hlast : [piece].filterMap Piece.property? = piece.property?.toList := by
        cases hpiece : piece.property? <;> simp [hpiece]
      rw [List.foldl_append, List.foldl_cons, List.foldl_nil, List.filterMap_append, hlast]
      exact (piece.perm_properties_addedTo _).trans (ih.append_right _)

end Description

open Description (Piece pieces)

/-- A card with just the properties that some pieces stand for. -/
structure Card.Renders (card : Card) (row : List Piece) : Prop where
  standard : card.standard = row.filterMap Piece.standard?
  extended : card.extended = Keyed.gathered (Description.extendedByName row)
  perm_properties : card.properties.Perm (row.filterMap Piece.property?)
  size : card.size = row.length

theorem Card.renders_foldl_addedTo {row : List Piece} (hrow : ∀ piece ∈ row, piece.IsReadable) :
    Card.Renders (row.foldl Piece.addedTo .empty) row := by
  have hperm := Description.perm_properties_foldl_addedTo row
  constructor
  case standard => exact Description.standard_foldl_addedTo row
  case extended => exact Description.extended_foldl_addedTo row
  case perm_properties => exact hperm
  case size =>
    refine hperm.length_eq.trans (List.filterMap_length_eq_length.2 fun piece hpiece => ?_)
    obtain ⟨p, hp⟩ := (hrow piece hpiece).exists_property
    rw [hp, Option.isSome_some]

theorem Card.Renders.eq {card other : Card} {row : List Piece} (hcard : card.Renders row)
    (hother : other.Renders row) : card = other := by
  obtain ⟨standard, extended⟩ := card
  obtain ⟨otherStandard, otherExtended⟩ := other
  obtain rfl : standard = otherStandard := hcard.standard.trans hother.standard.symm
  obtain rfl : extended = otherExtended := hcard.extended.trans hother.extended.symm
  rfl

/-- A mapping is read exactly when all its pieces can be, and the card then has just the
properties that the pieces stand for. -/
theorem Card.ofValue_eq_ok_iff_renders (entries : List (Scalar × Value)) (card : Card) :
    Card.ofValue (.mapping entries) = .ok card ↔
      (∀ piece ∈ pieces (.mapping entries), piece.IsReadable) ∧
        card.Renders (pieces (.mapping entries)) := by
  rw [Description.ofValue_eq_ok_iff_foldl]
  constructor
  · rintro ⟨hreadable, rfl⟩
    exact ⟨hreadable, Card.renders_foldl_addedTo hreadable⟩
  · rintro ⟨hreadable, hcard⟩
    exact ⟨hreadable, hcard.eq (Card.renders_foldl_addedTo hreadable)⟩

/-- Names that differ in case alone share the place of the first of them. -/
example : (Card.ofValue (.mapping [
    (.text "extended", .list [
      .mapping [(.text "name", .text "x-a")], .mapping [(.text "name", .text "X-B")],
      .mapping [(.text "name", .text "X-A")]]),
    (.text "member", .list [.text "urn:x", .null])])).map
      (fun card => card.properties.map (·.name)) =
    .ok ["MEMBER", "MEMBER", "X-A", "X-A", "X-B"] := by
  rfl

end ContactCard
