import ContactCard.Yaml.Root
import ContactCard.Proofs.Description.Contents
import ContactCard.Proofs.PlainKeys

/-!
# Keys that mappings take

Loading refuses a mapping with keys that cannot be told apart.  Texts always can, and what is
assembled from a document, or read as the root of one, has good keys throughout.
-/

namespace ContactCard

/-- No key is the same as a text but the text itself. -/
theorem Scalar.isPlain_text (s : String) : Keyed.IsPlain (Scalar.text s) :=
  fun _ => Description.same_text_iff

/-- Whether all keys are texts. -/
def AreTexts (entries : List (Scalar × Value)) : Prop :=
  ∀ entry ∈ entries, ∃ name, entry.1 = .text name

theorem AreTexts.arePlain {entries : List (Scalar × Value)} (h : AreTexts entries) :
    Keyed.ArePlain entries := by
  intro entry hentry
  obtain ⟨name, hname⟩ := h entry hentry
  exact hname ▸ Scalar.isPlain_text name

theorem AreTexts.insertAll {entries gifts : List (Scalar × Value)} (hentries : AreTexts entries)
    (hgifts : AreTexts gifts) : AreTexts (Keyed.insertAll entries gifts) := by
  intro entry hentry
  rcases hgifts.arePlain.mem_insertAll hentry with hmem | hmem
  · exact hentries entry hmem
  · exact hgifts entry hmem

theorem Yaml.settledEntries_eq_map (entries : List (Scalar × Value)) :
    settledEntries entries = entries.map fun entry => (entry.1, settled entry.2) := by
  induction entries with
  | nil => rfl
  | cons entry rest ih => rw [settledEntries, ih, List.map_cons]

theorem Yaml.keys_settledEntries (entries : List (Scalar × Value)) :
    (settledEntries entries).map (·.1) = entries.map (·.1) := by
  rw [settledEntries_eq_map, List.map_map]
  rfl

theorem AreTexts.settledEntries {entries : List (Scalar × Value)} (h : AreTexts entries) :
    AreTexts (Yaml.settledEntries entries) := by
  intro entry hentry
  have hkey : entry.1 ∈ (Yaml.settledEntries entries).map (·.1) := List.mem_map_of_mem hentry
  rw [Yaml.keys_settledEntries] at hkey
  obtain ⟨first, hfirst, heq⟩ := List.mem_map.1 hkey
  exact heq ▸ h first hfirst

/-! ## Keys that a mapping takes -/

namespace Yaml

theorem collides_comm (first second : Scalar) : collides first second = collides second first := by
  cases first <;> cases second <;> rfl

theorem collides_self (key : Scalar) : collides key key = false := by cases key <;> rfl

theorem takesKey_iff {others : List Scalar} {key : Scalar} :
    takesKey others key = true ↔
      key ≠ .null ∧ (∀ s, key ≠ .path s) ∧ ∀ other ∈ others, collides key other = false := by
  cases key <;> simp [takesKey]

theorem areBadKeys_eq_false_iff {keys : List Scalar} :
    areBadKeys keys = false ↔ ∀ key ∈ keys, takesKey keys key = true := by
  simp [areBadKeys]

theorem areBadKeys_of_areTexts {entries : List (Scalar × Value)} (h : AreTexts entries) :
    areBadKeys (entries.map (·.1)) = false := by
  rw [areBadKeys_eq_false_iff, List.forall_mem_map]
  intro entry hentry
  obtain ⟨name, hname⟩ := h entry hentry
  rw [hname, takesKey_iff, List.forall_mem_map]
  refine ⟨nofun, nofun, fun other hother => ?_⟩
  obtain ⟨word, hword⟩ := h other hother
  rw [hword]
  rfl

theorem itemsHaveBadKeys_eq_false_iff (items : List Value) :
    itemsHaveBadKeys items = false ↔ ∀ item ∈ items, hasBadKeys item = false := by
  induction items with
  | nil => simp [itemsHaveBadKeys]
  | cons item rest ih => simp [itemsHaveBadKeys, ih]

theorem entriesHaveBadKeys_eq_false_iff (entries : List (Scalar × Value)) :
    entriesHaveBadKeys entries = false ↔ ∀ entry ∈ entries, hasBadKeys entry.2 = false := by
  induction entries with
  | nil => simp [entriesHaveBadKeys]
  | cons entry rest ih => simp [entriesHaveBadKeys, ih]

theorem hasBadKeys_list_iff (items : List Value) :
    hasBadKeys (.list items) = false ↔ ∀ item ∈ items, hasBadKeys item = false := by
  rw [hasBadKeys, itemsHaveBadKeys_eq_false_iff]

theorem hasBadKeys_mapping_iff (entries : List (Scalar × Value)) :
    hasBadKeys (.mapping entries) = false ↔
      areBadKeys (entries.map (·.1)) = false ∧ ∀ entry ∈ entries, hasBadKeys entry.2 = false := by
  rw [hasBadKeys, Bool.or_eq_false_iff, entriesHaveBadKeys_eq_false_iff]

theorem hasBadKeys_insertAll {entries gifts : Keyed Scalar Value} (hentries : AreTexts entries)
    (hgifts : AreTexts gifts) (hold : ∀ entry ∈ entries, hasBadKeys entry.2 = false)
    (hnew : ∀ gift ∈ gifts, hasBadKeys gift.2 = false) :
    hasBadKeys (.mapping (Keyed.insertAll entries gifts)) = false := by
  have hkeys := areBadKeys_of_areTexts (hentries.insertAll hgifts)
  refine (hasBadKeys_mapping_iff _).2 ⟨hkeys, fun entry hentry => ?_⟩
  rcases hgifts.arePlain.mem_insertAll hentry with hmem | hmem
  · exact hold entry hmem
  · exact hnew entry hmem

/-- A key that is taken besides good keys makes good keys with them. -/
theorem areBadKeys_append {keys : List Scalar} {key : Scalar} (hkeys : areBadKeys keys = false)
    (hkey : takesKey keys key = true) : areBadKeys (keys ++ [key]) = false := by
  rw [areBadKeys_eq_false_iff] at hkeys ⊢
  obtain ⟨hnull, hpath, hothers⟩ := takesKey_iff.1 hkey
  intro name hname
  rcases List.mem_append.1 hname with hname | hname
  · obtain ⟨hnameNull, hnamePath, hnameOthers⟩ := takesKey_iff.1 (hkeys name hname)
    refine takesKey_iff.2 ⟨hnameNull, hnamePath, fun other hother => ?_⟩
    rcases List.mem_append.1 hother with hother | hother
    · exact hnameOthers other hother
    · rw [List.mem_singleton.1 hother, collides_comm]
      exact hothers name hname
  · obtain rfl := List.mem_singleton.1 hname
    refine takesKey_iff.2 ⟨hnull, hpath, fun other hother => ?_⟩
    rcases List.mem_append.1 hother with hother | hother
    · exact hothers other hother
    · rw [List.mem_singleton.1 hother, collides_self]

theorem hasBadKeys_mapping_append {entries : List (Scalar × Value)} {key : Scalar} {value : Value}
    (hentries : hasBadKeys (.mapping entries) = false)
    (hkey : takesKey (entries.map (·.1)) key = true) (hvalue : hasBadKeys value = false) :
    hasBadKeys (.mapping (entries ++ [(key, value)])) = false := by
  obtain ⟨hkeys, hvalues⟩ := (hasBadKeys_mapping_iff entries).1 hentries
  refine (hasBadKeys_mapping_iff _).2 ⟨?_, List.forall_mem_append.2 ⟨hvalues, ?_⟩⟩
  · rw [List.map_append]
    exact areBadKeys_append hkeys hkey
  · exact List.forall_mem_singleton.2 hvalue

/-- A value is assembled from good keys only. -/
theorem hasBadKeys_assemble (built : Array (Option Built)) (fuel n : Nat) {v : Value}
    (hv : assemble built fuel n = .ok v) : hasBadKeys v = false := by
  induction fuel generalizing n v with
  | zero => cases hv
  | succ fuel ih =>
      rw [assemble.eq_def] at hv
      dsimp only at hv
      split at hv
      · cases hv
      · cases hv
      · cases hv
      · cases hv
      · cases hv
        rfl
      · next items =>
        obtain ⟨values, hvalues, rfl⟩ := map_eq_ok.1 hv
        refine (hasBadKeys_list_iff values).2 ?_
        exact forall_of_mapM_eq_ok (fun m _ value h => ih m h) hvalues
      · next entries =>
        obtain ⟨pairs, hpairs, hv⟩ := bind_eq_ok.1 hv
        cases hv
        refine (hasBadKeys_list_iff pairs).2 (forall_of_mapM_eq_ok ?_ hpairs)
        rintro ⟨first, second⟩ - pair hpair
        obtain ⟨a, ha, hpair⟩ := bind_eq_ok.1 hpair
        obtain ⟨b, hb, hpair⟩ := bind_eq_ok.1 hpair
        cases hpair
        rw [hasBadKeys, ih first ha, ih second hb]
        rfl
      · next entries =>
        obtain ⟨values, hvalues, hv⟩ := bind_eq_ok.1 hv
        cases hv
        -- the entries that are there have good keys, and each new one is checked against them
        refine foldlM_ok_induction (motive := fun _ (values : List (Scalar × Value)) =>
          hasBadKeys (.mapping values) = false) rfl ?_ hvalues
        rintro - ⟨key, value⟩ before after hbefore hstep
        cases key with
        | none => cases hstep
        | some key =>
            dsimp only at hstep
            by_cases htakes : takesKey (before.map (·.1)) key = true
            · rw [htakes] at hstep
              obtain ⟨a, ha, hstep⟩ := bind_eq_ok.1 hstep
              cases hstep
              exact hasBadKeys_mapping_append hbefore htakes (ih value ha)
            · rw [Bool.eq_false_iff.2 htakes] at hstep
              cases hstep

/-- What a text is read as has no keys that a mapping does not take. -/
theorem hasBadKeys_of_read {s : String} {v : Value} (hv : read s = .ok v) :
    hasBadKeys v = false := by
  rw [read] at hv
  obtain ⟨g, -, hg⟩ := bind_eq_ok.1 hv
  cases g with
  | none =>
      cases hg
      rfl
  | some g =>
      dsimp only at hg
      rw [Graph.value] at hg
      obtain ⟨b, -, hg⟩ := bind_eq_ok.1 hg
      dsimp only at hg
      split at hg
      · cases hg
      · cases hg
      · exact hasBadKeys_assemble _ _ _ hg

theorem hasBadKeys_of_withGoodKeys {given v : Value} (hv : withGoodKeys given = .ok v) :
    hasBadKeys v = false := by
  rw [withGoodKeys] at hv
  split at hv
  · cases hv
  · next hgood =>
    cases hv
    simpa using hgood

theorem hasBadKeys_of_root {given v : Value} (hv : root given = .ok v) : hasBadKeys v = false := by
  rw [root.eq_def] at hv
  split at hv
  · cases hv
    rfl
  · split at hv
    · cases hv
    · cases hv
    · cases hv
      rfl
    · cases hv
      simp [hasBadKeys, areBadKeys, takesKey, collides, entriesHaveBadKeys]
    · cases hv
    · exact hasBadKeys_of_withGoodKeys hv
  · cases hv
  · exact hasBadKeys_of_withGoodKeys hv

end Yaml

end ContactCard
