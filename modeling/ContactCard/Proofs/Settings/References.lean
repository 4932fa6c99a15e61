import ContactCard.Proofs.Fold
import ContactCard.Settings.Override

/-!
# Values without references

Where neither a value nor what is put into it refers to another place, nothing does that is made
of them: what overrides are collected to, and what comes of laying that over a file.
-/

namespace ContactCard

namespace Yaml

/-- Whether no value in a row of entries refers to another place. -/
def AreFree (entries : List (Scalar × Value)) : Prop := ∀ entry ∈ entries, refers entry.2 = false

theorem refers_list_iff (items : List Value) :
    refers (.list items) = false ↔ ∀ item ∈ items, refers item = false := by
  rw [refers]
  induction items with
  | nil => simp [itemsRefer]
  | cons item rest ih => simp [itemsRefer, ih]

theorem refers_mapping_iff (entries : List (Scalar × Value)) :
    refers (.mapping entries) = false ↔ AreFree entries := by
  rw [refers, AreFree]
  induction entries with
  | nil => simp [entriesRefer]
  | cons entry rest ih => simp [entriesRefer, ih]

theorem AreFree.lookup {entries : Keyed Scalar Value} (h : AreFree entries) {key : Scalar}
    {old : Value} (hold : Keyed.lookup entries key = some old) : refers old = false :=
  Keyed.forall_lookup (P := fun v => refers v = false) h hold

theorem AreFree.insert {entries : Keyed Scalar Value} (h : AreFree entries) (key : Scalar)
    {v : Value} (hv : refers v = false) : AreFree (Keyed.insert entries key v) :=
  Keyed.forall_insert (P := fun v => refers v = false) h key hv

end Yaml

namespace Override

open Yaml (refers AreFree refers_list_iff refers_mapping_iff)

/-! ## Laying values over others -/

mutual

theorem refers_overlay {base upper v : Value} (hbase : refers base = false)
    (hupper : refers upper = false) (hv : overlay base upper = some v) : refers v = false := by
  match upper with
  | .mapping entries =>
      match base with
      | .mapping old =>
          obtain ⟨laid, hlaid, rfl⟩ := Option.map_eq_some_iff.1 hv
          rw [refers_mapping_iff] at hbase hupper ⊢
          exact areFree_overlayEntries hbase hupper hlaid
      | .list _ => cases hv
      | .scalar _ | .pair _ _ =>
          cases hv
          exact hupper
  | .list items =>
      match base with
      | .mapping _ => cases hv
      | .list _ | .scalar _ | .pair _ _ =>
          cases hv
          exact hupper
  | .scalar s =>
      rw [overlay, Option.some.injEq] at hv
      split at hv
      · exact hv ▸ hbase
      · exact hv ▸ hupper
  | .pair first second =>
      cases hv
      exact hupper

theorem areFree_overlayEntries {base entries laid : List (Scalar × Value)} (hbase : AreFree base)
    (hentries : AreFree entries) (hlaid : overlayEntries base entries = some laid) :
    AreFree laid := by
  match entries with
  | [] =>
      cases hlaid
      exact hbase
  | (key, value) :: rest =>
      obtain ⟨hvalue, hrest⟩ := List.forall_mem_cons.1 hentries
      rw [overlayEntries] at hlaid
      split at hlaid
      · next old hold =>
        split at hlaid
        · next raised hraised =>
          have hnew := refers_overlay (hbase.lookup hold) hvalue hraised
          exact areFree_overlayEntries (hbase.insert key hnew) hrest hlaid
        · cases hlaid
      · exact areFree_overlayEntries (hbase.insert key hvalue) hrest hlaid

end

/-! ## Collecting overrides -/

theorem refers_replaced {old : Option Value} {v new : Value}
    (hold : ∀ given, old = some given → refers given = false) (hv : refers v = false)
    (hnew : replaced old v = .ok new) : refers new = false := by
  revert hnew
  fun_cases replaced old v with
  | case1 given hboth laid hlaid =>
      rintro ⟨⟩
      exact refers_overlay (hold given rfl) hv hlaid
  | case2 => exact nofun
  | case3 =>
      rintro ⟨⟩
      exact hv
  | case4 =>
      rintro ⟨⟩
      exact hv

theorem refers_entered {old : Option Value}
    (hold : ∀ given, old = some given → refers given = false) : refers (entered old) = false := by
  fun_cases entered old with
  | case1 given => exact hold given rfl
  | case2 => rfl
  | case3 => rfl

/-- What a value makes of that which stands at the next step of its way. -/
def placed (v : Value) (rest : List String) (old : Option Value) : Except OverrideError Value :=
  if rest.isEmpty then replaced old v else assign v rest (entered old)

theorem assign_mapping (v : Value) (name : String) (rest : List String)
    (entries : Keyed Scalar Value) :
    assign v (name :: rest) (.mapping entries) =
      placed v rest (Keyed.lookup entries (keyNamed entries name)) >>= fun new =>
        .ok (.mapping (Keyed.insert entries (keyNamed entries name) new)) := by
  rw [assign, placed]
  split <;> rfl

theorem assign_list_eq_ok {v new : Value} {name : String} {rest : List String} {items : List Value}
    (hnew : assign v (name :: rest) (.list items) = .ok new) :
    ∃ i laid, placed v rest items[i]? = .ok laid ∧ new = .list (items.set i laid) := by
  rw [assign] at hnew
  split at hnew
  · cases hnew
  · split at hnew
    · cases hnew
    · next i _ =>
      have hstep : placed v rest items[i]? >>= (fun laid => .ok (.list (items.set i laid))) =
          .ok new := by
        rw [← hnew, placed]
        dsimp only
        split <;> rfl
      obtain ⟨laid, hlaid, hset⟩ := bind_eq_ok.1 hstep
      exact ⟨i, laid, hlaid, (Except.ok.inj hset).symm⟩

theorem refers_assign {v root new : Value} {place : List String} (hv : refers v = false)
    (hroot : refers root = false) (hnew : assign v place root = .ok new) : refers new = false := by
  induction place generalizing root new with
  | nil => cases hnew
  | cons name rest ih =>
      have hplaced : ∀ {old : Option Value} {laid : Value},
          (∀ given, old = some given → refers given = false) → placed v rest old = .ok laid →
            refers laid = false := by
        intro old laid hold hlaid
        rw [placed] at hlaid
        split at hlaid
        · exact refers_replaced hold hv hlaid
        · exact ih (refers_entered hold) hlaid
      cases root with
      | mapping entries =>
          rw [assign_mapping] at hnew
          obtain ⟨laid, hlaid, hnew⟩ := bind_eq_ok.1 hnew
          cases hnew
          rw [refers_mapping_iff] at hroot ⊢
          exact hroot.insert _ (hplaced (fun _ => hroot.lookup) hlaid)
      | list items =>
          obtain ⟨i, laid, hlaid, rfl⟩ := assign_list_eq_ok hnew
          rw [refers_list_iff] at hroot ⊢
          intro item hitem
          rcases List.mem_or_eq_of_mem_set hitem with hmem | rfl
          · exact hroot item hmem
          · exact hplaced (fun given hgiven => hroot given (List.mem_of_getElem? hgiven)) hlaid
      | scalar s =>
          cases hnew
          exact hroot
      | pair first second =>
          cases hnew
          exact hroot

/-- Overrides whose values are free of references are collected to a value that is. -/
theorem refers_collect {overrides : List String} {upper : Value}
    (hfree : ∀ override ∈ overrides, ∀ v, valueOf (Key.split override).2 = .ok v → refers v = false)
    (hupper : collect overrides = .ok upper) : refers upper = false := by
  refine foldlM_ok_induction (motive := fun done (root : Value) =>
    (∀ override ∈ done, ∀ v, valueOf (Key.split override).2 = .ok v → refers v = false) →
      refers root = false) (fun _ => rfl) ?_ hupper hfree
  intro done override before after hbefore hstep hall
  obtain ⟨hdone, hlast⟩ := List.forall_mem_append.1 hall
  obtain ⟨v, hv, hassign⟩ := bind_eq_ok.1 hstep
  exact refers_assign (hlast override (List.mem_singleton.2 rfl) v hv) (hbefore hdone) hassign

end Override

end ContactCard
