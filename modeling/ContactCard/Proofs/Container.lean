import ContactCard.Desk
import ContactCard.Proofs.Ledger

/-!
# The history of a card's properties

A card starts empty and is changed, one operation after another.  Its standard properties are
those of the attachments that stand, in the order in which these were made; the extended ones
are those that were added and not removed since, name by name.  A property counts by what it is
on the desk, so one that is attached twice stands twice, and only the earlier attachment is
undone by a removal.
-/

namespace ContactCard

/-- The classes of which an assignment leaves one property. -/
inductive Sole
  | formattedName
  | kind
  deriving DecidableEq

def Property.isSole (p : Property) : Sole → Bool
  | .formattedName => p.isFormattedName
  | .kind => p.isKind

def Card.sole? (card : Card) : Sole → Option Property
  | .formattedName => card.formattedName?
  | .kind => card.kind?

/-- A change of a property that leaves its name and class. -/
structure Edit where
  change : Property → Property
  keeps_name : ∀ p, (change p).name = p.name
  keeps_class : ∀ p c, (change p).isSole c = p.isSole c

namespace Desk

def isOf (d : Desk) (c : Sole) (i : Nat) : Bool := (d.item i).isSole c

def assign (d : Desk) : Sole → Option Nat → Desk
  | .formattedName => d.assignFormattedName
  | .kind => d.assignKind

/-- What can be done to the card, with properties by their numbers. -/
inductive Operation
  | attach (i : Nat)
  | detach (i : Nat)
  | assign (c : Sole) (i : Option Nat)
  | addExtended (name : String) (value : Option String) (group : Value)
  | detachExtended (name : String)
  | edit (i : Nat) (e : Edit)

def perform (d : Desk) : Operation → Desk
  | .attach i => d.attach i
  | .detach i => d.detach i
  | .assign c i => d.assign c i
  | .addExtended name value group => d.addExtended { Property.raw name value with group }
  | .detachExtended name => d.detachExtended name
  | .edit i e => d.update i e.change

/-- A desk with some properties and an empty card, after some operations. -/
def run (items : List Property) (operations : List Operation) : Desk :=
  operations.foldl perform { items }

/-! ## Attachments that stand -/

/-- What happens to the standard properties. -/
inductive Event
  | attach (i : Nat)
  | detach (i : Nat)
  | clear (c : Sole)

/-- An attachment of a property, with the number of events before it. -/
structure Attachment where
  time : Nat
  item : Nat
  deriving DecidableEq

/-- The attachments that stand after some events, the latest of which comes first.  A property
that is detached loses the earliest of its attachments that stand. -/
def Stands (isOf : Sole → Nat → Bool) : List Event → Attachment → Prop
  | [], _ => False
  | .attach i :: past, a => Stands isOf past a ∨ a = ⟨past.length, i⟩
  | .detach i :: past, a =>
      Stands isOf past a ∧
        ¬(a.item = i ∧ ∀ b, Stands isOf past b → b.item = i → a.time ≤ b.time)
  | .clear c :: past, a => Stands isOf past a ∧ isOf c a.item = false

def Operation.events : Operation → List Event
  | .attach i => [.attach i]
  | .detach i => [.detach i]
  | .assign c i => .clear c :: i.toList.map .attach
  | _ => []

/-- All events, the latest first. -/
def events (operations : List Operation) : List Event :=
  (operations.flatMap Operation.events).reverse

/-- What an event does to the standard properties. -/
def happen (isOf : Sole → Nat → Bool) : Event → List Nat → List Nat
  | .attach i, standard => standard ++ [i]
  | .detach i, standard => standard.erase i
  | .clear c, standard => standard.filter fun i => !isOf c i

theorem Stands.time_lt {isOf : Sole → Nat → Bool} {events : List Event} {a : Attachment}
    (h : Stands isOf events a) : a.time < events.length := by
  induction events with
  | nil => exact h.elim
  | cons event past ih =>
      rw [List.length_cons]
      cases event with
      | attach i =>
          rcases h with h | rfl
          · exact Nat.lt_succ_of_lt (ih h)
          · exact Nat.lt_succ_self _
      | detach i => exact Nat.lt_succ_of_lt (ih h.1)
      | clear c => exact Nat.lt_succ_of_lt (ih h.1)

/-- Among attachments in order of time, erasing one of a property erases its earliest. -/
theorem mem_eraseP_item {attachments : List Attachment}
    (hsorted : attachments.Pairwise (·.time < ·.time)) (i : Nat) (a : Attachment) :
    a ∈ attachments.eraseP (·.item == i) ↔
      a ∈ attachments ∧ ¬(a.item = i ∧ ∀ b ∈ attachments, b.item = i → a.time ≤ b.time) := by
  induction attachments with
  | nil => simp
  | cons first rest ih =>
      obtain ⟨hfirst, hrest⟩ := List.pairwise_cons.1 hsorted
      by_cases hi : first.item = i
      · rw [List.eraseP_cons_of_pos (by simpa using hi)]
        constructor
        · intro ha
          refine ⟨List.mem_cons_of_mem _ ha, fun ⟨_, hearliest⟩ => ?_⟩
          exact absurd (hfirst a ha) (Nat.not_lt.2 (hearliest first List.mem_cons_self hi))
        · rintro ⟨ha, hnot⟩
          rcases List.mem_cons.1 ha with rfl | ha
          · refine absurd ⟨hi, fun b hb _ => ?_⟩ hnot
            rcases List.mem_cons.1 hb with rfl | hb
            · exact Nat.le_refl _
            · exact Nat.le_of_lt (hfirst b hb)
          · exact ha
      · rw [List.eraseP_cons_of_neg (by simpa using hi), List.mem_cons, List.mem_cons, ih hrest]
        constructor
        · rintro (rfl | ⟨ha, hnot⟩)
          · exact ⟨.inl rfl, fun h => hi h.1⟩
          · exact ⟨.inr ha, fun h => hnot ⟨h.1, fun b hb => h.2 b (List.mem_cons_of_mem _ hb)⟩⟩
        · rintro ⟨rfl | ha, hnot⟩
          · exact .inl rfl
          · refine .inr ⟨ha, fun h => hnot ⟨h.1, fun b hb hbi => ?_⟩⟩
            rcases List.mem_cons.1 hb with rfl | hb
            · exact absurd hbi hi
            · exact h.2 b hb hbi

/-- The standard properties are those of the attachments that stand, in order of time. -/
theorem exists_attachments (isOf : Sole → Nat → Bool) (events : List Event) :
    ∃ attachments : List Attachment,
      attachments.Pairwise (·.time < ·.time) ∧
      (∀ a, a ∈ attachments ↔ Stands isOf events a) ∧
      events.foldr (happen isOf) [] = attachments.map (·.item) := by
  induction events with
  | nil => exact ⟨[], .nil, fun a => by simp [Stands], rfl⟩
  | cons event past ih =>
      obtain ⟨attachments, hsorted, hmem, hitems⟩ := ih
      rw [List.foldr_cons, hitems]
      cases event with
      | attach i =>
          refine ⟨attachments ++ [⟨past.length, i⟩], ?_, fun a => ?_, by simp [happen]⟩
          · refine List.pairwise_append.2 ⟨hsorted, List.pairwise_singleton _ _, ?_⟩
            intro a ha b hb
            rw [List.mem_singleton.1 hb]
            exact ((hmem a).1 ha).time_lt
          · rw [List.mem_append, List.mem_singleton, hmem, Stands]
      | detach i =>
          refine ⟨attachments.eraseP (·.item == i), hsorted.sublist List.eraseP_sublist,
            fun a => ?_, ?_⟩
          · simp only [mem_eraseP_item hsorted, hmem, Stands]
          · rw [happen, List.erase_eq_eraseP', List.eraseP_map]
            rfl
      | clear c =>
          refine ⟨attachments.filter fun a => !isOf c a.item, hsorted.sublist List.filter_sublist,
            fun a => ?_, ?_⟩
          · simp only [List.mem_filter, hmem, Stands, Bool.not_eq_eq_eq_not, Bool.not_true]
          · rw [happen, List.filter_map]
            rfl

/-! ## Extended properties that stand -/

abbrev Change := Keyed.Change String Nat

/-- What an operation does to the extended properties, where `count` properties are on the
desk. -/
def Operation.changes (count : Nat) : Operation → List Change
  | .addExtended name _ _ => [.add (Text.upper name) count]
  | .detachExtended name => [.drop (Text.upper name)]
  | _ => []

/-- The number of properties that an operation puts on the desk. -/
def Operation.created : Operation → Nat
  | .addExtended _ _ _ => 1
  | _ => 0

/-- All extended properties that are added, under the numbers that they get, and all names that
are removed. -/
def history : Nat → List Operation → List Change
  | _, [] => []
  | count, operation :: later =>
      operation.changes count ++ history (count + operation.created) later

/-! ## One operation -/

theorem item_addExtended (d : Desk) (p : Property) (i : Nat) :
    (d.addExtended p).item i = if i = d.items.length then p else d.item i := by
  rw [item, addExtended, List.getElem?_append]
  split
  · next hlt => rw [if_neg (Nat.ne_of_lt hlt), item]
  · next hge =>
      by_cases heq : i = d.items.length
      · simp [heq]
      · have hout : d.items[i]? = none := by
          rw [List.getElem?_eq_none_iff]
          omega
        rw [if_neg heq, item, hout, List.getElem?_eq_none]
        rw [List.length_singleton]
        omega

theorem item_update (d : Desk) (i j : Nat) (f : Property → Property) :
    (d.update i f).item j = if i = j ∧ j < d.items.length then f (d.item j) else d.item j := by
  rw [item, update, List.getElem?_modify, item]
  by_cases hj : j < d.items.length
  · by_cases hi : i = j <;> simp [hi, hj]
  · rw [List.getElem?_eq_none (Nat.not_lt.1 hj), if_neg (fun h => hj h.2)]
    rfl

/-- A property on the desk stays, is edited, or is a new extended one. -/
theorem item_perform_cases (d : Desk) (operation : Operation) (i : Nat) :
    (d.perform operation).item i = d.item i ∨
      (∃ e : Edit, (d.perform operation).item i = e.change (d.item i)) ∨
      (i = d.items.length ∧ ∃ name value group,
        (d.perform operation).item i = { Property.raw name value with group := group }) := by
  cases operation with
  | addExtended name value group =>
      rw [perform, item_addExtended]
      split
      · next hnew => exact .inr (.inr ⟨hnew, name, value, group, rfl⟩)
      · exact .inl rfl
  | edit j e =>
      rw [perform, item_update]
      split
      · exact .inr (.inl ⟨e, rfl⟩)
      · exact .inl rfl
  | assign c j => cases c <;> exact .inl rfl
  | _ => exact .inl rfl

/-- No operation changes the class of a property, nor puts a new one of a sole class on the
desk. -/
theorem isOf_perform (d : Desk) (operation : Operation) (c : Sole) (i : Nat) :
    (d.perform operation).isOf c i = d.isOf c i := by
  rw [isOf, isOf]
  obtain hsame | ⟨e, hedit⟩ | ⟨hnew, name, value, group, hraw⟩ :=
    item_perform_cases d operation i
  · rw [hsame]
  · rw [hedit, e.keeps_class]
  · have hnone : d.item i = Property.ofText "" none := by
      rw [item, hnew, List.getElem?_eq_none (Nat.le_refl _), Option.getD_none]
    rw [hraw, hnone]
    cases c <;> rfl

/-- A property on the desk keeps its name. -/
theorem name_perform (d : Desk) (operation : Operation) {i : Nat} (hi : i < d.items.length) :
    ((d.perform operation).item i).name = (d.item i).name := by
  obtain hsame | ⟨e, hedit⟩ | ⟨hnew, -⟩ := item_perform_cases d operation i
  · rw [hsame]
  · rw [hedit, e.keeps_name]
  · exact absurd hnew (Nat.ne_of_lt hi)

theorem length_items_perform (d : Desk) (operation : Operation) :
    (d.perform operation).items.length = d.items.length + operation.created := by
  cases operation with
  | addExtended name value group => exact List.length_append
  | edit j e => exact List.length_modify _ _ _
  | assign other j => cases other <;> rfl
  | _ => rfl

theorem standard_assign (d : Desk) (c : Sole) (i : Option Nat) :
    (d.assign c i).roster.standard =
      (d.roster.standard.filter fun j => !d.isOf c j) ++ i.toList := by
  cases c <;> rfl

theorem standard_perform (d : Desk) (operation : Operation) :
    (d.perform operation).roster.standard =
      operation.events.foldl (fun standard event => happen d.isOf event standard)
        d.roster.standard := by
  cases operation with
  | assign c i =>
      rw [perform, standard_assign]
      cases i with
      | none => rw [Option.toList_none, List.append_nil]; rfl
      | some i => rfl
  | _ => rfl

theorem extended_perform (d : Desk) (operation : Operation) :
    (d.perform operation).roster.extended =
      (operation.changes d.items.length).foldl Keyed.change d.roster.extended := by
  cases operation with
  | assign c i => cases c <;> rfl
  | addExtended name value group =>
      -- The new property goes under its own name, which is in upper case already.
      have hkey : Text.upper (Property.raw name value).name = Text.upper name :=
        Text.upper_upper name
      rw [perform, addExtended, Roster.attachExtended, hkey]
      rfl
  | _ => rfl

/-! ## All operations -/

theorem isOf_foldl_perform (d : Desk) (operations : List Operation) :
    (operations.foldl perform d).isOf = d.isOf := by
  induction operations generalizing d with
  | nil => rfl
  | cons operation later ih =>
      rw [List.foldl_cons, ih]
      funext c i
      exact d.isOf_perform operation c i

theorem name_foldl_perform (d : Desk) (operations : List Operation) {i : Nat}
    (hi : i < d.items.length) :
    ((operations.foldl perform d).item i).name = (d.item i).name := by
  induction operations generalizing d with
  | nil => rfl
  | cons operation later ih =>
      have hlater : i < (d.perform operation).items.length := by
        rw [length_items_perform]
        omega
      rw [List.foldl_cons, ih _ hlater, name_perform d operation hi]

theorem standard_foldl_perform (d : Desk) (operations : List Operation) :
    (operations.foldl perform d).roster.standard =
      (operations.flatMap Operation.events).foldl
        (fun standard event => happen d.isOf event standard) d.roster.standard := by
  induction operations generalizing d with
  | nil => rfl
  | cons operation later ih =>
      have hclasses : (d.perform operation).isOf = d.isOf := isOf_foldl_perform d [operation]
      rw [List.foldl_cons, ih, hclasses, List.flatMap_cons, List.foldl_append, standard_perform]

theorem extended_foldl_perform (d : Desk) (operations : List Operation) :
    (operations.foldl perform d).roster.extended =
      (history d.items.length operations).foldl Keyed.change d.roster.extended := by
  induction operations generalizing d with
  | nil => rfl
  | cons operation later ih =>
      rw [List.foldl_cons, ih, extended_perform, length_items_perform, history, List.foldl_append]

/-- A property that is added under a name has this name. -/
theorem name_of_add_mem_history (d : Desk) (operations : List Operation) {name : String} {i : Nat}
    (h : .add name i ∈ history d.items.length operations) :
    ((operations.foldl perform d).item i).name = name := by
  induction operations generalizing d with
  | nil => cases h
  | cons operation later ih =>
      rw [history, List.mem_append, ← length_items_perform] at h
      rcases h with h | h
      · cases operation with
        | addExtended given value group =>
            obtain ⟨rfl, rfl⟩ : name = Text.upper given ∧ i = d.items.length := by
              simpa [Operation.changes] using h
            have hi : d.items.length <
                (d.perform (.addExtended given value group)).items.length := by
              rw [length_items_perform]
              exact Nat.lt_succ_self _
            rw [List.foldl_cons, name_foldl_perform _ _ hi, perform, item_addExtended, if_pos rfl]
            rfl
        | detachExtended given => simp [Operation.changes] at h
        | _ => cases h
      · exact ih _ h

/-! ## What a card shows -/

theorem members_map {α β : Type} (f : α → β) (r : Roster α) :
    (r.map f).members = r.members.map f := by
  rw [Roster.members, Roster.members, List.map_append, Roster.allExtended, Roster.allExtended,
    List.map_flatMap]
  exact congrArg _ (List.flatMap_map _ _ _)

theorem extendedNamed_map {α β : Type} (f : α → β) (r : Roster α) (name : String) :
    (r.map f).extendedNamed name = (r.extendedNamed name).map f := by
  have hlookup : (r.map f).extended.lookup (Text.upper name) =
      (r.extended.lookup (Text.upper name)).map (List.map f) := by
    rw [Roster.map, Keyed.lookup, Keyed.lookup, List.find?_map, Option.map_map, Option.map_map]
    rfl
  rw [Roster.extendedNamed, Roster.extendedNamed, hlookup]
  cases r.extended.lookup (Text.upper name) <;> rfl

/-- What a removal does: it undoes the earliest attachment of the very property, if there is
one, and says whether there is. -/
structure Detaches (d : Desk) (i : Nat) : Prop where
  isAttached_iff : d.isAttached i = true ↔ i ∈ d.roster.standard
  earliest : i ∈ d.roster.standard → ∃ before after,
    i ∉ before ∧ d.roster.standard = before ++ i :: after ∧
      d.detach i = { d with roster.standard := before ++ after }
  unchanged : i ∉ d.roster.standard → d.detach i = d

theorem detaches (d : Desk) (i : Nat) : d.Detaches i where
  isAttached_iff := List.contains_iff_mem
  earliest := by
    intro hmem
    obtain ⟨before, after, hbefore, hsplit, herase⟩ := List.exists_erase_eq hmem
    refine ⟨before, after, hbefore, hsplit, ?_⟩
    rw [detach, Roster.detach, herase]
  unchanged := by
    intro hmem
    rw [detach, Roster.detach, List.erase_of_not_mem hmem]

/-- What an assignment does: the other properties stay as they are, and of the class only the
one that is assigned is left, as the last of the standard properties. -/
structure Assigns (d : Desk) (c : Sole) (i : Option Nat) : Prop where
  items : (d.assign c i).items = d.items
  extended : (d.assign c i).roster.extended = d.roster.extended
  standard : (d.assign c i).roster.standard =
    (d.roster.standard.filter fun j => !d.isOf c j) ++ i.toList
  ofClass : (∀ j ∈ i, d.isOf c j = true) →
    (d.assign c i).roster.standard.filter (d.isOf c) = i.toList
  sole? : (∀ j ∈ i, d.isOf c j = true) → (d.assign c i).card.sole? c = i.map d.item

theorem sole?_card (d : Desk) (c : Sole) :
    d.card.sole? c = (d.roster.standard.filter (d.isOf c)).head?.map d.item := by
  rw [List.head?_filter]
  cases c <;> exact List.find?_map ..

theorem assigns (d : Desk) (c : Sole) (i : Option Nat) : d.Assigns c i := by
  have hitems : (d.assign c i).items = d.items := by cases c <;> rfl
  have hisOf : (d.assign c i).isOf = d.isOf := isOf_foldl_perform d [.assign c i]
  have hofClass (hi : ∀ j ∈ i, d.isOf c j = true) :
      (d.assign c i).roster.standard.filter (d.isOf c) = i.toList := by
    have hothers : ((d.roster.standard.filter fun j => !d.isOf c j).filter (d.isOf c)) = [] := by
      rw [List.filter_filter]
      simp
    rw [standard_assign, List.filter_append, hothers, List.nil_append, List.filter_eq_self]
    simpa using hi
  exact {
    items := hitems
    extended := by cases c <;> rfl
    standard := d.standard_assign c i
    ofClass := hofClass
    sole? := by
      intro hi
      rw [sole?_card, hisOf, hofClass hi]
      cases c <;> cases i <;> rfl }

/-- A desk whose card shows the attachments that stand after some events, then some additions
name by name, and nothing else. -/
structure Shows (d : Desk) (events : List Event) (additions : List (String × Nat)) : Prop where
  standard : ∃ attachments : List Attachment,
    attachments.Pairwise (·.time < ·.time) ∧
    (∀ a, a ∈ attachments ↔ Stands d.isOf events a) ∧
    d.roster.standard = attachments.map (·.item)
  members : d.roster.members = d.roster.standard ++
    (Keyed.firstKeys additions).flatMap fun name => Keyed.valuesUnder name additions
  extendedNamed : ∀ name,
    d.roster.extendedNamed name = Keyed.valuesUnder (Text.upper name) additions
  names : ∀ name i, (name, i) ∈ additions → (d.item i).name = name
  properties : d.card.properties = d.roster.members.map d.item
  extendedProperties : ∀ name, d.card.extendedNamed name = (d.roster.extendedNamed name).map d.item
  size : d.card.size = d.card.properties.length
  detaches : ∀ i, d.Detaches i
  assigns : ∀ c i, d.Assigns c i

/-- A card shows the standard properties whose attachments were not undone, and the extended
ones that were not removed since they were added. -/
theorem shows_history (items : List Property) (operations : List Operation) :
    (run items operations).Shows (events operations)
      (Keyed.standing (history items.length operations)) := by
  have hisOf : (run items operations).isOf = ({ items } : Desk).isOf := isOf_foldl_perform _ _
  have hextended : (run items operations).roster.extended =
      Keyed.gathered (Keyed.standing (history items.length operations)) := by
    rw [run, extended_foldl_perform, ← Keyed.foldl_change]
    rfl
  exact {
    standard := by
      rw [hisOf, run, standard_foldl_perform, List.foldl_eq_foldr_reverse]
      exact exists_attachments _ (events operations)
    members := by
      rw [Roster.members, Roster.allExtended, hextended, Keyed.gathered, List.flatMap_map]
    extendedNamed := by
      intro name
      rw [Roster.extendedNamed, hextended, Keyed.lookup_gathered]
    names := fun name i hmem =>
      name_of_add_mem_history _ operations (Keyed.add_mem_of_mem_standing hmem)
    properties := members_map _ _
    extendedProperties := extendedNamed_map _ _
    size := rfl
    detaches := detaches _
    assigns := assigns _ }

/-- A property that is attached twice and detached once stands where it was attached again. -/
example : (run [.nickname ["Ann"], .categories ["a"]]
    [.attach 0, .addExtended "x-b" none .null, .attach 1, .attach 0, .detach 0,
      .addExtended "x-a" none .null, .addExtended "X-B" none .null]).roster.members =
    [1, 0, 2, 4, 3] := by
  decide

end Desk

end ContactCard
