import ContactCard.Proofs.Description.Contents
import ContactCard.Proofs.Yaml.Keys

/-!
# Where pairs stand

Pairs come from lists of ordered entries and stand nowhere but in lists.  A group is what a mapping
has under a key, so no group in a loaded document is a pair, and the groups without a label are
just the lists and the mappings.
-/

namespace ContactCard

mutual

/-- Values in which pairs stand nowhere but in lists. -/
inductive Value.ListsPairs : Value → Prop
  | scalar (s : Scalar) : ListsPairs (.scalar s)
  | list {items : List Value} (h : ∀ item ∈ items, IsListItem item) : ListsPairs (.list items)
  | mapping {entries : List (Scalar × Value)} (h : ∀ entry ∈ entries, ListsPairs entry.2) :
      ListsPairs (.mapping entries)

/-- What may stand in a list besides. -/
inductive Value.IsListItem : Value → Prop
  | value {v : Value} (h : ListsPairs v) : IsListItem v
  | pair {first second : Value} (hfirst : ListsPairs first) (hsecond : ListsPairs second) :
      IsListItem (.pair first second)

end

namespace Value

theorem ListsPairs.ne_pair {v : Value} (h : v.ListsPairs) (first second : Value) :
    v ≠ .pair first second := by
  rintro rfl
  cases h

theorem ListsPairs.items {items : List Value} (h : (Value.list items).ListsPairs) :
    ∀ item ∈ items, item.IsListItem := by
  cases h with
  | list h => exact h

theorem ListsPairs.values {entries : List (Scalar × Value)}
    (h : (Value.mapping entries).ListsPairs) : ∀ entry ∈ entries, entry.2.ListsPairs := by
  cases h with
  | mapping h => exact h

/-- A mapping in a list is no pair. -/
theorem IsListItem.listsPairs {entries : List (Scalar × Value)}
    (h : (Value.mapping entries).IsListItem) : (Value.mapping entries).ListsPairs := by
  cases h with
  | value h => exact h

end Value

/-! ## Loaded documents -/

namespace Yaml

/-- Pairs are assembled as items of lists. -/
theorem listsPairs_assemble (built : Array (Option Built)) (fuel n : Nat) {v : Value}
    (hv : assemble built fuel n = .ok v) : v.ListsPairs := by
  induction fuel generalizing n v with
  | zero => cases hv
  | succ fuel ih =>
      rw [assemble.eq_def] at hv
      dsimp only at hv
      split at hv
      · cases hv
      · cases hv
      · cases hv
      · cases hv
      · cases hv
        exact .scalar _
      · obtain ⟨values, hvalues, rfl⟩ := map_eq_ok.1 hv
        exact .list (forall_of_mapM_eq_ok (fun m _ value h => .value (ih m h)) hvalues)
      · obtain ⟨pairs, hpairs, hv⟩ := bind_eq_ok.1 hv
        cases hv
        refine .list (forall_of_mapM_eq_ok ?_ hpairs)
        rintro ⟨first, second⟩ - pair hpair
        obtain ⟨a, ha, hpair⟩ := bind_eq_ok.1 hpair
        obtain ⟨b, hb, hpair⟩ := bind_eq_ok.1 hpair
        cases hpair
        exact .pair (ih first ha) (ih second hb)
      · obtain ⟨values, hvalues, hv⟩ := bind_eq_ok.1 hv
        cases hv
        refine .mapping (foldlM_ok_induction
          (motive := fun _ (values : List (Scalar × Value)) => ∀ entry ∈ values,
            entry.2.ListsPairs) (by simp) ?_ hvalues)
        rintro - ⟨key, value⟩ before after hbefore hstep
        cases key with
        | none => cases hstep
        | some key =>
            dsimp only at hstep
            split at hstep
            · cases hstep
            · obtain ⟨a, ha, hstep⟩ := bind_eq_ok.1 hstep
              cases hstep
              exact List.forall_mem_append.2
                ⟨hbefore, List.forall_mem_singleton.2 (ih value ha)⟩

theorem listsPairs_of_read {s : String} {v : Value} (hv : read s = .ok v) : v.ListsPairs := by
  rw [read] at hv
  obtain ⟨g, -, hg⟩ := bind_eq_ok.1 hv
  cases g with
  | none =>
      cases hg
      exact .scalar _
  | some g =>
      dsimp only at hg
      rw [Graph.value] at hg
      obtain ⟨b, -, hg⟩ := bind_eq_ok.1 hg
      dsimp only at hg
      split at hg
      · cases hg
      · cases hg
      · exact listsPairs_assemble _ _ _ hg

theorem writtenItems_eq_map (items : List Value) : writtenItems items = items.map written := by
  induction items with
  | nil => rfl
  | cons item rest ih => rw [writtenItems, ih, List.map_cons]

theorem writtenEntries_eq_map (entries : List (Scalar × Value)) :
    writtenEntries entries = entries.map fun entry => (writtenScalar entry.1, written entry.2) := by
  induction entries with
  | nil => rfl
  | cons entry rest ih => rw [writtenEntries, ih, List.map_cons]

theorem settledItems_eq_map (items : List Value) : settledItems items = items.map settled := by
  induction items with
  | nil => rfl
  | cons item rest ih => rw [settledItems, ih, List.map_cons]

mutual

theorem listsPairs_written : ∀ {v : Value}, v.ListsPairs → (written v).ListsPairs
  | _, .scalar s => .scalar _
  | _, .list h => by
      have hitems := fun item hitem => isListItem_written (h item hitem)
      rw [written, writtenItems_eq_map]
      exact .list (List.forall_mem_map.2 hitems)
  | _, .mapping h => by
      have hvalues := fun entry hentry => listsPairs_written (h entry hentry)
      rw [written, writtenEntries_eq_map]
      exact .mapping (Keyed.forall_ofPairs (List.forall_mem_map.2 hvalues))

theorem isListItem_written : ∀ {v : Value}, v.IsListItem → (written v).IsListItem
  | _, .value h => .value (listsPairs_written h)
  | _, .pair hfirst hsecond => .pair (listsPairs_written hfirst) (listsPairs_written hsecond)

end

mutual

theorem listsPairs_settled : ∀ {v : Value}, v.ListsPairs → (settled v).ListsPairs
  | _, .scalar s => by cases s <;> exact .scalar _
  | _, .list h => by
      have hitems := fun item hitem => isListItem_settled (h item hitem)
      rw [settled, settledItems_eq_map]
      exact .list (List.forall_mem_map.2 hitems)
  | _, .mapping h => by
      have hvalues := fun entry hentry => listsPairs_settled (h entry hentry)
      rw [settled, settledEntries_eq_map]
      exact .mapping (List.forall_mem_map.2 hvalues)

theorem isListItem_settled : ∀ {v : Value}, v.IsListItem → (settled v).IsListItem
  | _, .value h => .value (listsPairs_settled h)
  | _, .pair hfirst hsecond => .pair (listsPairs_settled hfirst) (listsPairs_settled hsecond)

end

theorem listsPairs_of_root {given v : Value} (hgiven : given.ListsPairs)
    (hv : root given = .ok v) : v.ListsPairs := by
  have hgood : ∀ {raw : Value}, raw.ListsPairs → withGoodKeys raw = .ok v → v.ListsPairs := by
    intro raw hraw hkeys
    rw [withGoodKeys] at hkeys
    split at hkeys
    · cases hkeys
    · exact Except.ok.inj hkeys ▸ hraw
  rw [root.eq_def] at hv
  split at hv
  · cases hv
    exact .mapping (by simp)
  · next s =>
    split at hv
    · cases hv
    · cases hv
    · cases hv
      exact .mapping (by simp)
    · cases hv
      exact .mapping (List.forall_mem_singleton.2 (.scalar _))
    · cases hv
    · next raw _ _ _ hread => exact hgood (listsPairs_of_read hread) hv
  · cases hv
  · exact hgood (listsPairs_written hgiven) hv

end Yaml

/-! ## Groups -/

namespace Description

/-- What a mapping has under a word is no pair. -/
theorem listsPairs_partIn {raw : Value} (hraw : raw.IsListItem) (word : String) :
    (partIn word raw).ListsPairs := by
  cases raw with
  | mapping entries =>
      rw [partIn, under]
      cases hvalue : Keyed.lookup entries (.text word) with
      | none => exact .scalar _
      | some v => exact Keyed.forall_lookup hraw.listsPairs.values hvalue
  | scalar s => exact .scalar _
  | list items => exact .scalar _
  | pair first second => exact .scalar _

/-- The entry that a piece is read from, if there is one. -/
def Piece.entry? : Piece → Option Value
  | .text _ raw | .list _ raw | .extended raw => some raw
  | .unknown _ | .noItems => none

theorem Piece.exists_entry {piece : Piece} {p : Property} (hp : piece.property? = some p) :
    ∃ raw, piece.entry? = some raw ∧ p.group = partIn "group" raw := by
  cases piece with
  | text key raw => exact ⟨raw, rfl, by cases hp; rfl⟩
  | list key raw => exact ⟨raw, rfl, by cases hp; rfl⟩
  | extended raw => exact ⟨raw, rfl, by cases hp; rfl⟩
  | unknown key => cases hp
  | noItems => cases hp

theorem isListItem_of_valuesOf {raw : Value} (hraw : raw.ListsPairs) :
    ∀ v ∈ valuesOf raw, v.IsListItem := by
  fun_cases valuesOf raw with
  | case1 items => exact hraw.items
  | case2 => exact List.forall_mem_singleton.2 (.value hraw)

theorem isListItem_of_items? {raw : Value} (hraw : raw.ListsPairs) {items : List Value}
    (hitems : raw.items? = some items) : ∀ item ∈ items, item.IsListItem := by
  revert hitems
  fun_cases Value.items? raw with
  | case1 =>
      rintro ⟨⟩
      exact hraw.items
  | case2 =>
      rintro ⟨⟩
      exact List.forall_mem_map.2 fun _ _ => .value (.scalar _)
  | case3 first second => exact absurd rfl (hraw.ne_pair first second)
  | case4 =>
      rintro ⟨⟩
      exact List.forall_mem_map.2 fun _ _ => .value (.scalar _)
  | case5 =>
      rintro ⟨⟩
      exact List.forall_mem_map.2 fun _ _ => .value (.scalar _)
  | case6 => exact nofun

theorem isListItem_of_piecesUnder {key : Scalar} {raw : Value} (hraw : raw.ListsPairs) :
    ∀ piece ∈ piecesUnder key raw, ∀ given ∈ piece.entry?, given.IsListItem := by
  have hown : ∀ given ∈ some raw, given.IsListItem := by
    rintro given ⟨⟩
    exact .value hraw
  have heach : ∀ v : Value, v.IsListItem → ∀ given ∈ some v, given.IsListItem := by
    rintro v hv given ⟨⟩
    exact hv
  -- The cases are the keys in their order; members and extended entries come in lists.
  unfold piecesUnder
  split
  case h_4 =>
    exact List.forall_mem_map.2 fun v hv => heach v (isListItem_of_valuesOf hraw v hv)
  case h_8 =>
    split
    · cases hitems : raw.items? with
      | none => exact List.forall_mem_singleton.2 nofun
      | some items =>
          exact List.forall_mem_map.2 fun v hv => heach v (isListItem_of_items? hraw hitems v hv)
    · exact fun _ hmem => absurd hmem List.not_mem_nil
  case h_9 => exact List.forall_mem_singleton.2 nofun
  all_goals exact List.forall_mem_singleton.2 hown

end Description

/-- No group of a card is a pair if its description lists all pairs. -/
theorem Card.listsPairs_group {v : Value} (hv : v.ListsPairs) {card : Card}
    (hcard : Card.ofValue v = .ok card) : ∀ p ∈ card.properties, p.group.ListsPairs := by
  cases v with
  | mapping entries =>
      obtain ⟨-, rfl⟩ := Description.ofValue_eq_ok_iff_foldl.1 hcard
      intro p hp
      have hmem := (Description.perm_properties_foldl_addedTo _).mem_iff.1 hp
      obtain ⟨piece, hpiece, hproperty⟩ := List.mem_filterMap.1 hmem
      obtain ⟨entry, hentry, hunder⟩ := List.mem_flatMap.1 hpiece
      obtain ⟨raw, hraw, hgroup⟩ := Description.Piece.exists_entry hproperty
      rw [hgroup]
      exact Description.listsPairs_partIn
        (Description.isListItem_of_piecesUnder (hv.values entry hentry) piece hunder raw hraw) _
  | scalar s => cases hcard
  | list items => cases hcard
  | pair first second => cases hcard

/-- A group without a label is a list or a mapping, unless it is a pair. -/
theorem Property.label?_eq_none_iff {p : Property} (hp : p.group.ListsPairs) :
    p.label? = none ↔
      (∃ items, p.group = .list items) ∨ ∃ entries, p.group = .mapping entries := by
  rw [Property.label?]
  cases hgroup : p.group with
  | scalar s => simp
  | list items => simp
  | mapping entries => simp
  | pair first second => exact absurd hgroup (hp.ne_pair first second)

/-- The groups without a label on the cards of a document are just the lists and the mappings
among them. -/
theorem Card.label?_eq_none_iff {source path : String} {doc root : Value} {cards : List Card}
    (hdoc : Yaml.read source = .ok doc) (hroot : Yaml.root doc = .ok root)
    (hcards : Card.ofDocument path (Yaml.settled root) = .ok cards) :
    ∀ card ∈ cards, ∀ p ∈ card.properties, p.label? = none ↔
      (∃ items, p.group = .list items) ∨ ∃ entries, p.group = .mapping entries := by
  have hsettled : (Yaml.settled root).ListsPairs :=
    Yaml.listsPairs_settled (Yaml.listsPairs_of_root (Yaml.listsPairs_of_read hdoc) hroot)
  generalize Yaml.settled root = v at hcards hsettled
  cases v with
  | mapping entries =>
      rw [Card.ofDocument] at hcards
      split at hcards
      · cases hcards
      · next items hitems =>
        have hlist : (Value.list items).ListsPairs :=
          Keyed.forall_lookup hsettled.values hitems
        refine forall_of_mapM_eq_ok (fun item hitem card hcard p hp => ?_) hcards
        have hdescribed : item.ListsPairs := by
          cases hlist.items item hitem with
          | value h => exact h
          | pair => cases hcard
        exact Property.label?_eq_none_iff (Card.listsPairs_group hdescribed hcard p hp)
      · cases hcards
  | scalar s => cases hcards
  | list items => cases hcards
  | pair first second => cases hcards

end ContactCard
