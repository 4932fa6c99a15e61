import ContactCard.Proofs.Description.Contents
import ContactCard.Proofs.Spelling

/-!
# How the reading of a description ends

Where every integer has a spelling, the reading of a value ends with a card or with a fault that
is reported, but for two ways to trip: a value without items in the place of the extended
entries, and an entry with stray keys of kinds that cannot be put in order for the report.  It
trips exactly when that happens before any other fault.
-/

namespace ContactCard.Description

/-! ## Values that have a spelling -/

theorem isSpelled_of_mem_valuesOf {v item : Value} (hv : v.isSpelled = true)
    (hitem : item ∈ valuesOf v) : item.isSpelled = true := by
  cases v with
  | list items => exact (Value.isSpelled_list_iff items).1 hv item hitem
  | scalar s => exact List.mem_singleton.1 hitem ▸ hv
  | mapping entries => exact List.mem_singleton.1 hitem ▸ hv
  | pair first second => exact List.mem_singleton.1 hitem ▸ hv

theorem isSpelled_of_mem_listed {v item : Value} (hv : v.isSpelled = true)
    (hitem : item ∈ listed v) : item.isSpelled = true := by
  rw [listed.eq_def] at hitem
  split at hitem
  · cases hitem
  · exact isSpelled_of_mem_valuesOf hv hitem

theorem isSpelled_under {entries : List (Scalar × Value)}
    (hentries : (Value.mapping entries).isSpelled = true) (word : String) :
    (under entries word).isSpelled = true := by
  rw [under, Keyed.lookup]
  cases hfind : entries.find? fun entry => Key.same entry.1 (.text word) with
  | none => rfl
  | some entry =>
      have hentry := List.mem_of_find?_eq_some hfind
      exact ((Value.isSpelled_mapping_iff entries).1 hentries entry hentry).2

theorem isSpelled_partIn {raw : Value} (hraw : raw.isSpelled = true) (word : String) :
    (partIn word raw).isSpelled = true := by
  cases raw with
  | mapping entries => exact isSpelled_under hraw word
  | scalar s => rfl
  | list items => rfl
  | pair first second => rfl

theorem isSpelled_valueIn {raw : Value} (hraw : raw.isSpelled = true) (word : String) :
    (valueIn word raw).isSpelled = true := by
  cases raw with
  | mapping entries => exact isSpelled_under hraw word
  | scalar s => exact hraw
  | list items => exact hraw
  | pair first second => exact hraw

theorem isSpelled_of_mem_straysIn {words : List String} {raw : Value} {key : Scalar}
    (hraw : raw.isSpelled = true) (hkey : key ∈ straysIn words raw) : key.isSpelled = true := by
  cases raw with
  | mapping entries =>
      obtain ⟨entry, hentry, rfl⟩ := List.mem_map.1 (List.mem_filter.1 hkey).1
      exact ((Value.isSpelled_mapping_iff entries).1 hraw entry hentry).1
  | scalar s => cases hkey
  | list items => cases hkey
  | pair first second => cases hkey

/-- What goes through a value for its items finds no entry but those of a list or a pair. -/
theorem isSpelled_partIn_of_mem_items? {v item : Value} {items : List Value}
    (hv : v.isSpelled = true) (hitems : v.items? = some items) (hitem : item ∈ items)
    (word : String) : (partIn word item).isSpelled = true := by
  cases v with
  | list members =>
      obtain rfl := Option.some.inj hitems
      exact isSpelled_partIn ((Value.isSpelled_list_iff members).1 hv item hitem) word
  | pair first second =>
      obtain rfl := Option.some.inj hitems
      obtain ⟨hfirst, hsecond⟩ := Bool.and_eq_true_iff.1 hv
      rcases List.mem_cons.1 hitem with rfl | hitem
      · exact isSpelled_partIn hfirst word
      · exact isSpelled_partIn (List.mem_singleton.1 hitem ▸ hsecond) word
  | mapping entries =>
      obtain rfl := Option.some.inj hitems
      obtain ⟨entry, -, rfl⟩ := List.mem_map.1 hitem
      rfl
  | scalar s =>
      cases s with
      | text s =>
          obtain rfl := Option.some.inj hitems
          obtain ⟨c, -, rfl⟩ := List.mem_map.1 hitem
          rfl
      | bytes b =>
          obtain rfl := Option.some.inj hitems
          obtain ⟨n, -, rfl⟩ := List.mem_map.1 hitem
          rfl
      | _ => cases hitems

theorem isTable_of_isSpelled {entries : List (Scalar × Value)}
    (hentries : (Value.mapping entries).isSpelled = true) : IsTable (.mapping entries) := by
  rw [isTable_mapping_iff]
  intro entry hentry v hv
  obtain ⟨hname, hvalue⟩ := (Value.isSpelled_mapping_iff entries).1 hentries entry hentry
  exact ⟨hname, isSpelled_of_mem_valuesOf hvalue hv⟩

/-! ## Answers -/

section Answers

variable {α β : Type}

/-- A result, or a fault that is reported. -/
def IsAnswered (x : Except DescriptionError α) : Prop :=
  (∃ a, x = .ok a) ∨ ∃ fault, x = .error (.invalid fault)

theorem IsAnswered.bind {x : Except DescriptionError α} {f : α → Except DescriptionError β}
    (hx : IsAnswered x) (hf : ∀ a, x = .ok a → IsAnswered (f a)) : IsAnswered (x >>= f) := by
  obtain ⟨a, rfl⟩ | ⟨fault, rfl⟩ := hx
  · exact hf a rfl
  · exact .inr ⟨fault, rfl⟩

theorem isAnswered_error {fault : DescriptionFault} (hfault : fault.isSpelled = true) :
    IsAnswered (.error fault.error : Except DescriptionError α) :=
  .inr ⟨fault, by rw [DescriptionFault.error, if_pos hfault]⟩

end Answers

theorem isAnswered_parameters (field : String) {v : Value} (hv : v.isSpelled = true) :
    IsAnswered (parameters field v) := by
  fun_cases parameters field v with
  | case1 entries =>
      have hread : parameters field (.mapping entries) = .ok _ :=
        parameters_eq_ok_iff.2 ⟨isTable_of_isSpelled hv, rfl⟩
      exact .inl ⟨_, hread⟩
  | case2 => exact .inr ⟨_, rfl⟩
  | case3 => exact .inl ⟨_, rfl⟩

theorem isAnswered_finish (field : String) {entry : Entry} (made : Property)
    (hentry : entry.parameters.isSpelled = true) : IsAnswered (finish field entry made) :=
  (isAnswered_parameters field hentry).bind fun _ _ => .inl ⟨_, rfl⟩

/-! ## Stray keys in order -/

/-- Keys that cannot be put in order: two at least, and not all texts, all bytes or all
numbers. -/
def AreMixed (keys : List Scalar) : Prop :=
  1 < keys.length ∧ (∃ key ∈ keys, key.isText = false) ∧ (∃ key ∈ keys, key.isBytes = false) ∧
    ∃ key ∈ keys, key.number? = none

theorem sorted?_eq_none_iff (keys : List Scalar) :
    Scalar.sorted? keys = none ↔ AreMixed keys := by
  simp [Scalar.sorted?, AreMixed, and_assoc]

theorem mem_of_mem_sorted? {keys sorted : List Scalar} (hsorted : Scalar.sorted? keys = some sorted)
    {key : Scalar} (hkey : key ∈ sorted) : key ∈ keys := by
  rw [Scalar.sorted?] at hsorted
  split at hsorted
  · cases hsorted
    exact List.mem_mergeSort.1 hkey
  · cases hsorted

theorem isAnswered_entry (field : String) {valueWord : String} {raw : Value}
    (hraw : raw.isSpelled = true) (hstrays : ¬AreMixed (straysIn (entryWords valueWord) raw)) :
    IsAnswered (Entry.read field valueWord raw) := by
  rw [Entry.read_eq]
  split
  · exact .inl ⟨_, rfl⟩
  · split
    · next keys hkeys =>
        refine isAnswered_error (List.all_eq_true.2 fun key hkey => ?_)
        exact isSpelled_of_mem_straysIn hraw (mem_of_mem_sorted? hkeys hkey)
    · next hnone => exact absurd ((sorted?_eq_none_iff _).1 hnone) hstrays

theorem read_eq_mixedKeys (field : String) {valueWord : String} {raw : Value}
    (hstrays : AreMixed (straysIn (entryWords valueWord) raw)) :
    Entry.read field valueWord raw = .error .mixedKeys := by
  rw [Entry.read_eq]
  split
  · next hnone =>
      rw [hnone] at hstrays
      cases hstrays.1
  · rw [(sorted?_eq_none_iff _).2 hstrays]

/-! ## Pieces -/

namespace Piece

/-- Whether what a piece is read from has a spelling. -/
def IsSpelled : Piece → Prop
  | .text _ raw | .list _ raw => raw.isSpelled = true
  | .extended raw => ∀ word, (partIn word raw).isSpelled = true
  | .unknown key => key.isSpelled = true
  | .noItems => True

/-- A piece over which the reading trips. -/
def Trips : Piece → Prop
  | .text _ raw => AreMixed (straysIn (entryWords "value") raw)
  | .list _ raw => AreMixed (straysIn (entryWords "values") raw)
  | .extended _ | .unknown _ => False
  | .noItems => True

end Piece

theorem isSpelled_of_mem_piecesUnder {key : Scalar} {raw : Value} {piece : Piece}
    (hkey : key.isSpelled = true) (hraw : raw.isSpelled = true)
    (hpiece : piece ∈ piecesUnder key raw) : piece.IsSpelled := by
  rw [piecesUnder.eq_def] at hpiece
  split at hpiece
  case h_4 =>
    obtain ⟨member, hmember, rfl⟩ := List.mem_map.1 hpiece
    exact isSpelled_of_mem_valuesOf hraw hmember
  case h_8 =>
    split at hpiece
    · cases hitems : raw.items? with
      | none =>
          rw [hitems] at hpiece
          obtain rfl := List.mem_singleton.1 hpiece
          trivial
      | some items =>
          rw [hitems] at hpiece
          obtain ⟨item, hitem, rfl⟩ := List.mem_map.1 hpiece
          exact isSpelled_partIn_of_mem_items? hraw hitems hitem
    · cases hpiece
  case h_9 =>
    obtain rfl := List.mem_singleton.1 hpiece
    exact hkey
  all_goals
    obtain rfl := List.mem_singleton.1 hpiece
    exact hraw

theorem isSpelled_of_mem_pieces {v : Value} {piece : Piece} (hv : v.isSpelled = true)
    (hpiece : piece ∈ pieces v) : piece.IsSpelled := by
  cases v with
  | mapping entries =>
      obtain ⟨entry, hentry, hunder⟩ := List.mem_flatMap.1 hpiece
      obtain ⟨hkey, hraw⟩ := (Value.isSpelled_mapping_iff entries).1 hv entry hentry
      exact isSpelled_of_mem_piecesUnder hkey hraw hunder
  | scalar s => cases hpiece
  | list items => cases hpiece
  | pair first second => cases hpiece

theorem isAnswered_checkSingle (field : String) (v : Value) :
    IsAnswered (checkSingle field v) := by
  cases v with
  | scalar s => exact .inl ⟨(), rfl⟩
  | list items => exact .inr ⟨_, rfl⟩
  | mapping entries => exact .inr ⟨_, rfl⟩
  | pair first second => exact .inl ⟨(), rfl⟩

theorem isAnswered_text (key : TextKey) {raw : Value} (hraw : raw.isSpelled = true)
    (hstrays : ¬AreMixed (straysIn (entryWords "value") raw)) :
    IsAnswered (Piece.text key raw).read := by
  rw [Piece.read, textProperty_eq]
  refine (isAnswered_entry key.word hraw hstrays).bind fun entry hentry => ?_
  obtain ⟨-, rfl⟩ := Entry.read_eq_ok_iff.1 hentry
  refine (isAnswered_checkSingle key.word _).bind fun _ _ => ?_
  have hvalue := isSpelled_valueIn hraw "value"
  have hspelling : IsAnswered (spelling? (valueIn "value" raw)) :=
    .inl ⟨_, spelling?_eq_ok_iff.2 ⟨hvalue, rfl⟩⟩
  exact hspelling.bind fun _ _ => isAnswered_finish key.word _ (isSpelled_partIn hraw "parameters")

theorem isAnswered_list (key : ListKey) {raw : Value} (hraw : raw.isSpelled = true)
    (hstrays : ¬AreMixed (straysIn (entryWords "values") raw)) :
    IsAnswered (Piece.list key raw).read := by
  rw [Piece.read, listProperty_eq]
  refine (isAnswered_entry key.word hraw hstrays).bind fun entry hentry => ?_
  obtain ⟨-, rfl⟩ := Entry.read_eq_ok_iff.1 hentry
  have hvalue := isSpelled_valueIn hraw "values"
  have hspelling : IsAnswered ((listed (valueIn "values" raw)).mapM spelling) :=
    .inl ⟨_, mapM_spelling_eq_ok_iff.2 ⟨fun _ hv => isSpelled_of_mem_listed hvalue hv, rfl⟩⟩
  exact hspelling.bind fun _ _ => isAnswered_finish key.word _ (isSpelled_partIn hraw "parameters")

theorem isAnswered_extended {raw : Value} (hraw : ∀ word, (partIn word raw).isSpelled = true) :
    IsAnswered (Piece.extended raw).read := by
  cases raw with
  | mapping entries =>
      rw [Piece.read, extendedProperty]
      split
      · exact .inr ⟨_, rfl⟩
      · next name hname =>
          obtain rfl : under entries "name" = name := by rw [under, hname, Option.getD_some]
          have hspelledName : IsAnswered (spelling (under entries "name")) :=
            .inl ⟨_, spelling_eq_ok_iff.2 ⟨hraw "name", rfl⟩⟩
          have hspelling : IsAnswered (spelling? (under entries "value")) :=
            .inl ⟨_, spelling?_eq_ok_iff.2 ⟨hraw "value", rfl⟩⟩
          exact hspelledName.bind fun _ _ => hspelling.bind fun _ _ =>
            isAnswered_finish "extended" _ (hraw "parameters")
  | scalar s => exact .inr ⟨_, rfl⟩
  | list items => exact .inr ⟨_, rfl⟩
  | pair first second => exact .inr ⟨_, rfl⟩

theorem not_isAnswered_iff {α : Type} {x : Except DescriptionError α} :
    ¬IsAnswered x ↔ ∃ e, x = .error e ∧ ∀ fault, e ≠ .invalid fault := by
  cases x with
  | ok a => simp [IsAnswered]
  | error e => simp [IsAnswered]

theorem not_isAnswered_mixedKeys {α : Type} :
    ¬IsAnswered (.error .mixedKeys : Except DescriptionError α) := by
  simp [IsAnswered]

theorem not_isAnswered_noItems {α : Type} :
    ¬IsAnswered (.error .noItems : Except DescriptionError α) := by
  simp [IsAnswered]

/-- Where everything has a spelling, a piece is answered unless the reading trips over it. -/
theorem Piece.isAnswered_read_iff {piece : Piece} (hpiece : piece.IsSpelled) :
    IsAnswered piece.read ↔ ¬piece.Trips := by
  cases piece with
  | text key raw =>
      refine ⟨fun hanswered htrips => ?_, isAnswered_text key hpiece⟩
      rw [Piece.read, textProperty_eq, read_eq_mixedKeys key.word htrips] at hanswered
      exact not_isAnswered_mixedKeys hanswered
  | list key raw =>
      refine ⟨fun hanswered htrips => ?_, isAnswered_list key hpiece⟩
      rw [Piece.read, listProperty_eq, read_eq_mixedKeys key.word htrips] at hanswered
      exact not_isAnswered_mixedKeys hanswered
  | extended raw => exact iff_of_true (isAnswered_extended hpiece) not_false
  | unknown key => exact iff_of_true (isAnswered_error hpiece) not_false
  | noItems => exact iff_of_false not_isAnswered_noItems (not_not_intro trivial)

/-- The reading trips over just those pieces of a description that it fails to read without a
fault to report. -/
theorem trips_iff_of_mem_pieces {v : Value} {piece : Piece} (hv : v.isSpelled = true)
    (hpiece : piece ∈ pieces v) :
    piece.Trips ↔ ∃ e, piece.read = .error e ∧ ∀ fault, e ≠ .invalid fault := by
  rw [← not_isAnswered_iff, Piece.isAnswered_read_iff (isSpelled_of_mem_pieces hv hpiece), not_not]

/-! ## Descriptions -/

/-- A row of pieces over which the reading trips: it comes to a piece over which it trips and
can read all pieces before. -/
def TripsUp (row : List Piece) : Prop :=
  ∃ before piece after, row = before ++ piece :: after ∧
    (∀ earlier ∈ before, earlier.IsReadable) ∧ piece.Trips

theorem not_tripsUp_nil : ¬TripsUp [] := by
  rintro ⟨before, piece, after, hrow, -⟩
  exact List.append_ne_nil_of_right_ne_nil before (List.cons_ne_nil piece after) hrow.symm

theorem Piece.addTo_eq_error_iff {card : Card} {piece : Piece} {e : DescriptionError} :
    piece.addTo card = .error e ↔ piece.read = .error e := by
  rw [Piece.addTo]
  cases piece.read <;> simp [Functor.map, Except.map]

theorem foldlM_addTo_eq_error_iff {row : List Piece} {card : Card} {e : DescriptionError} :
    row.foldlM Piece.addTo card = .error e ↔
      ∃ before piece after, row = before ++ piece :: after ∧
        (∀ earlier ∈ before, earlier.IsReadable) ∧ piece.read = .error e :=
  foldlM_eq_error_iff (P := Piece.IsReadable) (E := fun piece => piece.read = .error e)
    (fun _ _ _ => Piece.addTo_eq_ok_iff) fun _ _ => Piece.addTo_eq_error_iff

/-- The reading of a value whose integers all have a spelling ends with a card or a fault that is
reported exactly when it does not trip. -/
theorem isAnswered_ofValue_iff {v : Value} (hv : v.isSpelled = true) :
    IsAnswered (Card.ofValue v) ↔ ¬TripsUp (pieces v) := by
  cases v with
  | mapping entries =>
      rw [ofValue_eq_foldlM, ← not_iff_not, not_not, not_isAnswered_iff]
      simp only [foldlM_addTo_eq_error_iff]
      have hmem : ∀ {before piece after}, pieces (.mapping entries) = before ++ piece :: after →
          piece ∈ pieces (.mapping entries) := by
        intro before piece after hrow
        rw [hrow]
        exact List.mem_append_right _ List.mem_cons_self
      constructor
      · rintro ⟨e, ⟨before, piece, after, hrow, hbefore, hpiece⟩, he⟩
        have htrips := (trips_iff_of_mem_pieces hv (hmem hrow)).2 ⟨e, hpiece, he⟩
        exact ⟨before, piece, after, hrow, hbefore, htrips⟩
      · rintro ⟨before, piece, after, hrow, hbefore, htrips⟩
        obtain ⟨e, hpiece, he⟩ := (trips_iff_of_mem_pieces hv (hmem hrow)).1 htrips
        exact ⟨e, ⟨before, piece, after, hrow, hbefore, hpiece⟩, he⟩
  | scalar s => exact iff_of_true (.inr ⟨_, rfl⟩) not_tripsUp_nil
  | list items => exact iff_of_true (.inr ⟨_, rfl⟩) not_tripsUp_nil
  | pair first second => exact iff_of_true (.inr ⟨_, rfl⟩) not_tripsUp_nil

/-- A name with a stray key, and behind it extended entries that cannot be gone through. -/
def strayDescription : Value := .mapping [
  (.text "fn", .mapping [(.text "value", .text "Ann"), (.bool true, .text "x")]),
  (.text "extended", .bool true)]

/-- The fault of the name is reported before the reading can trip. -/
theorem isAnswered_strayDescription :
    strayDescription.isSpelled = true ∧ ¬TripsUp (pieces strayDescription) ∧
      IsAnswered (Card.ofValue strayDescription) := by
  have hspelled : strayDescription.isSpelled = true := rfl
  have hsteady : ¬TripsUp (pieces strayDescription) := by
    rintro ⟨before, piece, after, hrow, hbefore, htrips⟩
    cases before with
    | nil =>
        obtain ⟨rfl, -⟩ := List.cons.inj hrow
        exact absurd htrips.1 (by decide)
    | cons first before =>
        obtain ⟨rfl, -⟩ := List.cons.inj hrow
        exact absurd (hbefore _ List.mem_cons_self).1 (by decide)
  exact ⟨hspelled, hsteady, (isAnswered_ofValue_iff hspelled).2 hsteady⟩

/-- A number in the place of the extended entries. -/
def unlistedDescription : Value := .mapping [(.text "extended", .int 5)]

/-- A name with stray keys of two kinds. -/
def mixedDescription : Value := .mapping [(.text "fn", .mapping [
  (.text "value", .text "Ann"), (.int 1, .text "x"), (.text "a", .text "y")])]

/-- Both ways to trip leave a description without an answer. -/
theorem not_isAnswered_unlistedDescription :
    (unlistedDescription.isSpelled = true ∧ ¬IsAnswered (Card.ofValue unlistedDescription)) ∧
      mixedDescription.isSpelled = true ∧ ¬IsAnswered (Card.ofValue mixedDescription) :=
  ⟨⟨by decide +kernel, not_isAnswered_noItems⟩, by decide +kernel, not_isAnswered_mixedKeys⟩

end ContactCard.Description
