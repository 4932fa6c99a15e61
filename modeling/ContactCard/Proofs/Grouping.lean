import ContactCard.Buckets
import ContactCard.Proofs.Fold
import Mathlib.Data.List.Induction
import Mathlib.Data.List.Nodup

/-!
# Properties by group

Bucketing loses no property, adds none, and puts each under a label that counts
as the same as its own.  Where all groups are absent or named by text it is a
stable partition: one bucket for every group, in the order in which the groups
first come up, with the properties of the group in their order.
-/

namespace ContactCard

/-! ## Keyed lists over a family of distinct keys -/

/-- Changing one entry of a keyed list that is indexed by distinct names. -/
theorem Keyed.alter_map {ι κ α : Type} [Key κ] [DecidableEq ι] {key : ι → κ}
    (hkey : ∀ i j, Key.same (key i) (key j) = decide (i = j)) {names : List ι}
    (hnodup : names.Nodup) (value : ι → α) (name : ι) (f : Option α → α) :
    Keyed.alter (key name) f (names.map fun i => (key i, value i)) =
      if name ∈ names then
        names.map fun i => (key i, if i = name then f (some (value i)) else value i)
      else (names.map fun i => (key i, value i)) ++ [(key name, f none)] := by
  induction names with
  | nil => simp [Keyed.alter]
  | cons first rest ih =>
      obtain ⟨hfirst, hrest⟩ := List.nodup_cons.1 hnodup
      rw [List.map_cons, Keyed.alter, hkey]
      by_cases heq : first = name
      · subst heq
        have hothers : ∀ i ∈ rest, i ≠ first := fun i hi h => hfirst (h ▸ hi)
        simp only [decide_true, if_true, List.mem_cons, true_or, List.map_cons]
        congr 1
        apply List.map_congr_left
        intro i hi
        rw [if_neg (hothers i hi)]
      · have hne : name ≠ first := fun h => heq h.symm
        rw [ih hrest]
        by_cases hmem : name ∈ rest <;> simp [heq, hne, hmem]

/-- Adding a value under a key adds just this value to all there are. -/
theorem Keyed.perm_flatMap_alter {κ α : Type} [Key κ] (t : Keyed κ (List α)) (key : κ) (x : α) :
    ((Keyed.alter key (fun old => old.getD [] ++ [x]) t).flatMap (·.2)).Perm
      (t.flatMap (·.2) ++ [x]) := by
  induction t with
  | nil => simp [Keyed.alter]
  | cons entry rest ih =>
      obtain ⟨other, xs⟩ := entry
      rw [Keyed.alter]
      split
      · simp only [List.flatMap_cons, Option.getD_some, List.append_assoc]
        exact List.Perm.append_left xs List.perm_append_comm
      · simp only [List.flatMap_cons, List.append_assoc]
        exact List.Perm.append_left xs ih

/-- Under distinct keys every pair is found. -/
theorem Keyed.lookup_of_mem {κ α : Type} [Key κ] [LawfulKey κ] {t : Keyed κ α}
    (ht : (keys t).Nodup) {entry : κ × α} (hentry : entry ∈ t) :
    lookup t entry.1 = some entry.2 := by
  induction t with
  | nil => cases hentry
  | cons first rest ih =>
      obtain ⟨hfirst, hrest⟩ : first.1 ∉ keys rest ∧ (keys rest).Nodup := List.nodup_cons.1 ht
      rcases List.mem_cons.1 hentry with rfl | hmem
      · simp [lookup, (LawfulKey.same_iff entry.1 entry.1).2 rfl]
      · have hne : ¬Key.same first.1 entry.1 = true := by
          intro h
          rw [(LawfulKey.same_iff _ _).1 h] at hfirst
          exact hfirst (List.mem_map_of_mem hmem)
        rw [← ih hrest hmem]
        simp [lookup, hne]

/-! ## What goes into the buckets -/

/-- The properties to be written: those of the card, then the signature of the
generator if it is asked for. -/
def Card.listed (card : Card) (addGenerator : Bool) : List Property :=
  card.properties ++ if addGenerator then [generatorProperty] else []

theorem Card.length_listed (card : Card) (addGenerator : Bool) :
    (card.listed addGenerator).length = card.size + if addGenerator then 1 else 0 := by
  cases addGenerator <;> simp [Card.listed, Card.properties, Roster.size]

theorem Card.mem_or_eq_of_mem_listed {card : Card} {addGenerator : Bool} {p : Property}
    (hp : p ∈ card.listed addGenerator) : p ∈ card.properties ∨ p = generatorProperty := by
  rcases List.mem_append.1 hp with hmem | hmem
  · exact .inl hmem
  · right
    cases addGenerator with
    | false => simp at hmem
    | true => simpa using hmem

/-- What holds of the signature need only be shown of the card's own properties. -/
theorem Card.forall_listed_iff {card : Card} {addGenerator : Bool} {P : Property → Prop}
    (hgenerator : P generatorProperty) :
    (∀ p ∈ card.listed addGenerator, P p) ↔ ∀ p ∈ card.properties, P p := by
  constructor
  · exact fun hlisted p hp => hlisted p (List.mem_append_left _ hp)
  · intro hcard p hp
    rcases Card.mem_or_eq_of_mem_listed hp with hmem | rfl
    · exact hcard p hmem
    · exact hgenerator

/-- The signature is placed like any other property. -/
theorem Card.buckets_eq (card : Card) (addGenerator : Bool) :
    card.buckets addGenerator = Buckets.ofProperties (card.listed addGenerator) := by
  unfold Card.buckets Card.listed Buckets.ofProperties
  cases addGenerator with
  | false => simp
  | true =>
      rw [if_pos rfl, List.foldlM_append]
      exact bind_congr fun _ => rfl

theorem Property.label?_eq_some_iff {p : Property} {label : Scalar} :
    p.label? = some label ↔ p.group = .scalar label := by
  rw [Property.label?]
  split
  · next s hs => simp [hs]
  · next hother => exact iff_of_false (by simp) (hother label)

/-- The properties in the buckets, bucket by bucket. -/
def Buckets.members (buckets : Buckets) : List Property := buckets.flatMap (·.2)

theorem Buckets.perm_members_place (buckets : Buckets) (label : Scalar) (p : Property) :
    (buckets.place label p).members.Perm (buckets.members ++ [p]) :=
  Keyed.perm_flatMap_alter buckets label p

/-- Every property stands under a label that counts as the same as its own. -/
def Buckets.AreLabelled (buckets : Buckets) : Prop :=
  ∀ bucket ∈ buckets, ∀ p ∈ bucket.2,
    ∃ label, p.label? = some label ∧ (bucket.1 = label ∨ Key.same bucket.1 label = true)

theorem Buckets.AreLabelled.place {buckets : Buckets} (hbuckets : buckets.AreLabelled)
    {label : Scalar} {p : Property} (hp : p.label? = some label) :
    (buckets.place label p).AreLabelled := by
  unfold Buckets.place
  induction buckets with
  | nil =>
      intro bucket hbucket q hq
      obtain rfl : bucket = (label, [p]) := by simpa [Keyed.alter] using hbucket
      obtain rfl : q = p := by simpa using hq
      exact ⟨label, hp, .inl rfl⟩
  | cons first rest ih =>
      obtain ⟨other, ps⟩ := first
      have hfirst := hbuckets (other, ps) List.mem_cons_self
      have hrest : Buckets.AreLabelled rest :=
        fun bucket hbucket => hbuckets bucket (List.mem_cons_of_mem _ hbucket)
      rw [Keyed.alter]
      split
      · next hsame =>
        intro bucket hbucket q hq
        rcases List.mem_cons.1 hbucket with rfl | hbucket
        · rcases List.mem_append.1 hq with hq | hq
          · exact hfirst q hq
          · obtain rfl : q = p := by simpa using hq
            exact ⟨label, hp, .inr hsame⟩
        · exact hrest bucket hbucket q hq
      · intro bucket hbucket
        rcases List.mem_cons.1 hbucket with rfl | hbucket
        · exact hfirst
        · exact ih hrest bucket hbucket

/-- Bucketing keeps all properties, each under a label of its own kind. -/
theorem Buckets.ofProperties_ok {ps : List Property} {buckets : Buckets}
    (hbuckets : Buckets.ofProperties ps = .ok buckets) :
    buckets.members.Perm ps ∧ buckets.AreLabelled := by
  refine foldlM_ok_induction
    (motive := fun done buckets => (Buckets.members buckets).Perm done ∧ buckets.AreLabelled)
    ⟨.refl _, fun _ h => absurd h (by simp)⟩ ?_ hbuckets
  rintro done p before after ⟨hperm, hlabelled⟩ hstep
  cases hlabel : p.label? with
  | none => simp [hlabel] at hstep
  | some label =>
      obtain rfl : before.place label p = after := by simpa [hlabel] using hstep
      exact ⟨(before.perm_members_place label p).trans (hperm.append_right [p]),
        hlabelled.place hlabel⟩

theorem Card.buckets_ok {card : Card} {addGenerator : Bool} {buckets : Buckets}
    (hbuckets : card.buckets addGenerator = .ok buckets) :
    buckets.members.Perm (card.listed addGenerator) ∧ buckets.AreLabelled := by
  rw [Card.buckets_eq] at hbuckets
  exact Buckets.ofProperties_ok hbuckets

/-! ## Groups named by text -/

/-- The name of a group, where that is text. -/
def Property.groupName? (p : Property) : Option String :=
  match p.group with
  | .text s => some s
  | _ => none

/-- The label that a group name stands for, `null` for none. -/
def Scalar.ofName? (name : Option String) : Scalar := name.elim .null .text

@[simp]
theorem Scalar.number?_ofName? (name : Option String) : (Scalar.ofName? name).number? = none := by
  cases name <;> rfl

@[simp]
theorem Scalar.isSpelled_ofName? (name : Option String) :
    (Scalar.ofName? name).isSpelled = true := by
  cases name <;> rfl

/-- Whether a property is ungrouped or in a group named by text. -/
def Property.HasNamedGroup (p : Property) : Prop := p.group = .null ∨ ∃ s, p.group = .text s

theorem Scalar.same_ofName? (first second : Option String) :
    Key.same (Scalar.ofName? first) (Scalar.ofName? second) = decide (first = second) := by
  rw [Bool.eq_iff_iff]
  cases first <;> cases second <;>
    simp [Scalar.ofName?, Key.same, Scalar.same, Scalar.number?]

theorem Property.HasNamedGroup.label? {p : Property} (hp : p.HasNamedGroup) :
    p.label? = some (Scalar.ofName? p.groupName?) := by
  rcases hp with h | ⟨s, h⟩ <;> simp [Property.label?, Property.groupName?, h, Scalar.ofName?]

/-- The groups of some properties, in the order in which they first come up. -/
def groupNames (ps : List Property) : List (Option String) :=
  (ps.map Property.groupName?).eraseDups

/-- The properties of one group. -/
def inGroup (name : Option String) (ps : List Property) : List Property :=
  ps.filter fun p => p.groupName? = name

/-- The properties group by group. -/
def arranged (ps : List Property) : List Property :=
  (groupNames ps).flatMap fun name => inGroup name ps

theorem nodup_eraseDups {α : Type} [BEq α] [LawfulBEq α] (xs : List α) : xs.eraseDups.Nodup := by
  cases xs with
  | nil => simp
  | cons x rest =>
      rw [List.eraseDups_cons, List.nodup_cons]
      exact ⟨by simp, nodup_eraseDups _⟩
termination_by xs.length
decreasing_by
  have := List.length_filter_le (fun y => !y == x) rest
  simp only [List.length_cons]
  omega

theorem eraseDups_append_singleton {α : Type} [BEq α] [LawfulBEq α] (xs : List α) (x : α) :
    (xs ++ [x]).eraseDups = if x ∈ xs then xs.eraseDups else xs.eraseDups ++ [x] := by
  rw [List.eraseDups_append]
  by_cases h : x ∈ xs <;> simp [List.removeAll, h, List.eraseDups_cons]

theorem nodup_groupNames (ps : List Property) : (groupNames ps).Nodup := nodup_eraseDups _

theorem mem_groupNames {name : Option String} {ps : List Property} :
    name ∈ groupNames ps ↔ ∃ p ∈ ps, p.groupName? = name := by
  simp [groupNames]

theorem groupNames_append (ps : List Property) (p : Property) :
    groupNames (ps ++ [p]) =
      if p.groupName? ∈ groupNames ps then groupNames ps
      else groupNames ps ++ [p.groupName?] := by
  rw [groupNames, List.map_append, List.map_singleton, eraseDups_append_singleton]
  simp only [groupNames, List.mem_eraseDups]

theorem inGroup_append (name : Option String) (ps : List Property) (p : Property) :
    inGroup name (ps ++ [p]) =
      if name = p.groupName? then inGroup name ps ++ [p] else inGroup name ps := by
  by_cases h : name = p.groupName?
  · simp [inGroup, h]
  · have h' : p.groupName? ≠ name := fun heq => h heq.symm
    simp [inGroup, h, h']

theorem inGroup_eq_nil {name : Option String} {ps : List Property} (h : name ∉ groupNames ps) :
    inGroup name ps = [] := by
  rw [inGroup, List.filter_eq_nil_iff]
  intro p hp hname
  exact h (mem_groupNames.2 ⟨p, hp, by simpa using hname⟩)

theorem mem_arranged {p : Property} {ps : List Property} : p ∈ arranged ps ↔ p ∈ ps := by
  rw [arranged, List.mem_flatMap]
  constructor
  · rintro ⟨name, -, hp⟩
    exact (List.mem_filter.1 hp).1
  · intro hp
    exact ⟨p.groupName?, mem_groupNames.2 ⟨p, hp, rfl⟩, List.mem_filter.2 ⟨hp, by simp⟩⟩

/-- One bucket for every group. -/
def Buckets.byName (ps : List Property) : Buckets :=
  (groupNames ps).map fun name => (Scalar.ofName? name, inGroup name ps)

/-- Placing a property next extends the partition by it. -/
theorem Buckets.place_byName (ps : List Property) (p : Property) :
    (Buckets.byName ps).place (Scalar.ofName? p.groupName?) p = Buckets.byName (ps ++ [p]) := by
  unfold Buckets.place Buckets.byName
  rw [Keyed.alter_map Scalar.same_ofName? (nodup_groupNames ps), groupNames_append]
  by_cases hmem : p.groupName? ∈ groupNames ps
  · rw [if_pos hmem, if_pos hmem]
    apply List.map_congr_left
    intro name _
    rw [inGroup_append]
    split <;> simp
  · have hothers : ∀ name ∈ groupNames ps, name ≠ p.groupName? :=
      fun name hname h => hmem (h ▸ hname)
    rw [if_neg hmem, if_neg hmem, List.map_append, List.map_singleton, inGroup_append, if_pos rfl,
      inGroup_eq_nil hmem]
    congr 1
    apply List.map_congr_left
    intro name hname
    rw [inGroup_append, if_neg (hothers name hname)]

/-- Properties in named groups are bucketed by a stable partition. -/
theorem Buckets.ofProperties_eq_byName {ps : List Property} (hps : ∀ p ∈ ps, p.HasNamedGroup) :
    Buckets.ofProperties ps = .ok (Buckets.byName ps) := by
  have hplace : ∀ todo done : List Property,
      todo.foldl (fun buckets p => Buckets.place buckets (Scalar.ofName? p.groupName?) p)
        (Buckets.byName done) = Buckets.byName (done ++ todo) := by
    intro todo
    induction todo with
    | nil => simp
    | cons p rest ih =>
        intro done
        rw [List.foldl_cons, Buckets.place_byName, ih]
        simp
  rw [Buckets.ofProperties, foldlM_eq_ok_foldl]
  · exact congrArg Except.ok (hplace ps [])
  · intro buckets p hp
    rw [(hps p hp).label?]

theorem Buckets.members_byName (ps : List Property) :
    (Buckets.byName ps).members = arranged ps := by
  simp [Buckets.members, Buckets.byName, arranged, List.flatMap_map]

/-- Going group by group only changes the order. -/
theorem perm_arranged {ps : List Property} (hps : ∀ p ∈ ps, p.HasNamedGroup) :
    (arranged ps).Perm ps := by
  rw [← Buckets.members_byName]
  exact (Buckets.ofProperties_ok (Buckets.ofProperties_eq_byName hps)).1

/-! ## The buckets of a card -/

/-- What is left without its repetitions is in the order in which it first comes up. -/
theorem pairwise_idxOf_eraseDups {α : Type} [BEq α] [LawfulBEq α] (xs : List α) :
    xs.eraseDups.Pairwise fun first second => xs.idxOf first < xs.idxOf second := by
  induction xs using List.reverseRecOn with
  | nil => simp
  | append_singleton xs x ih =>
      have hkept : xs.eraseDups.Pairwise fun first second =>
          (xs ++ [x]).idxOf first < (xs ++ [x]).idxOf second := by
        refine ih.imp_of_mem fun {first second} hfirst hsecond hlt => ?_
        rwa [List.idxOf_append_of_mem (List.mem_eraseDups.1 hfirst),
          List.idxOf_append_of_mem (List.mem_eraseDups.1 hsecond)]
      rw [eraseDups_append_singleton]
      split
      · exact hkept
      · next hnew =>
        refine List.pairwise_append.2 ⟨hkept, List.pairwise_singleton _ _, ?_⟩
        intro first hfirst second hsecond
        obtain rfl := List.mem_singleton.1 hsecond
        have hmem := List.mem_eraseDups.1 hfirst
        rw [List.idxOf_append_of_mem hmem, List.idxOf_append_of_notMem hnew]
        exact Nat.lt_add_right _ (List.idxOf_lt_length_of_mem hmem)

/-- The groups that have a bucket: those of the properties of the card, and behind them that of
the ungrouped where nothing but the signature of the generator needs it. -/
def Card.bucketNames (card : Card) (addGenerator : Bool) : List (Option String) :=
  groupNames card.properties ++
    if addGenerator = true ∧ none ∉ groupNames card.properties then [none] else []

theorem Card.groupNames_listed (card : Card) (addGenerator : Bool) :
    groupNames (card.listed addGenerator) = card.bucketNames addGenerator := by
  cases addGenerator with
  | false => simp [Card.listed, Card.bucketNames]
  | true =>
      have hgenerator : generatorProperty.groupName? = none := rfl
      rw [Card.listed, if_pos rfl, groupNames_append, hgenerator, Card.bucketNames]
      by_cases hmem : none ∈ groupNames card.properties <;> simp [hmem]

theorem Card.inGroup_listed (card : Card) (addGenerator : Bool) (name : Option String) :
    inGroup name (card.listed addGenerator) =
      inGroup name card.properties ++
        if addGenerator = true ∧ name = none then [generatorProperty] else [] := by
  cases addGenerator with
  | false => simp [Card.listed]
  | true =>
      have hgenerator : generatorProperty.groupName? = none := rfl
      rw [Card.listed, if_pos rfl, inGroup_append, hgenerator]
      by_cases hname : name = none <;> simp [hname]

/-- Buckets that are a stable partition of the properties of a card. -/
structure Buckets.ArePartition (buckets : Buckets) (card : Card) (addGenerator : Bool) :
    Prop where
  /-- There is one bucket for every group. -/
  labels : Keyed.keys buckets = (card.bucketNames addGenerator).map Scalar.ofName?
  labels_nodup : (Keyed.keys buckets).Nodup
  mem_groupNames_iff : ∀ name, name ∈ groupNames card.properties ↔
    ∃ p ∈ card.properties, p.groupName? = name
  /-- The groups are in the order in which they first come up. -/
  order : (groupNames card.properties).Pairwise fun first second =>
    (card.properties.map Property.groupName?).idxOf first <
      (card.properties.map Property.groupName?).idxOf second
  /-- A bucket holds the properties of its group in their order, and that of the ungrouped the
  signature behind them. -/
  contents : ∀ name ps, (Scalar.ofName? name, ps) ∈ buckets →
    ps = card.properties.filter (fun p => p.groupName? = name) ++
      if addGenerator = true ∧ name = none then [generatorProperty] else []
  group_eq : ∀ bucket ∈ buckets, ∀ p ∈ bucket.2, p.group = .scalar bucket.1
  /-- Nothing is lost or repeated. -/
  perm : buckets.members.Perm
    (card.properties ++ if addGenerator then [generatorProperty] else [])

theorem Scalar.ofName?_injective : Function.Injective Scalar.ofName? := by
  intro first second heq
  cases first <;> cases second <;> simp_all [Scalar.ofName?]

/-- A card whose groups are absent or named is bucketed by a stable partition. -/
theorem Card.exists_buckets_arePartition {card : Card}
    (hgroups : ∀ p ∈ card.properties, p.HasNamedGroup) (addGenerator : Bool) :
    ∃ buckets, card.buckets addGenerator = .ok buckets ∧
      buckets.ArePartition card addGenerator := by
  have hlisted : ∀ p ∈ card.listed addGenerator, p.HasNamedGroup :=
    (Card.forall_listed_iff (.inl rfl)).2 hgroups
  have hlabels : Keyed.keys (Buckets.byName (card.listed addGenerator)) =
      (card.bucketNames addGenerator).map Scalar.ofName? := by
    rw [Keyed.keys, Buckets.byName, List.map_map, Card.groupNames_listed]
    rfl
  refine ⟨Buckets.byName (card.listed addGenerator), ?_, ?_⟩
  · rw [Card.buckets_eq, Buckets.ofProperties_eq_byName hlisted]
  constructor
  case labels => exact hlabels
  case labels_nodup =>
    rw [hlabels, ← Card.groupNames_listed]
    exact (nodup_groupNames _).map Scalar.ofName?_injective
  case mem_groupNames_iff => exact fun name => mem_groupNames
  case order => exact pairwise_idxOf_eraseDups _
  case contents =>
    intro name ps hmem
    obtain ⟨other, -, heq⟩ := List.mem_map.1 hmem
    obtain ⟨hname, rfl⟩ := Prod.mk.inj heq
    obtain rfl := Scalar.ofName?_injective hname
    exact Card.inGroup_listed card addGenerator other
  case group_eq =>
    intro bucket hbucket p hp
    obtain ⟨name, -, rfl⟩ := List.mem_map.1 hbucket
    obtain ⟨hmem, hname⟩ := List.mem_filter.1 hp
    rw [← Property.label?_eq_some_iff, (hlisted p hmem).label?, of_decide_eq_true hname]
  case perm =>
    rw [Buckets.members_byName]
    exact perm_arranged hlisted

/-- A card with two groups that alternate and no ungrouped property. -/
def alternatingCard : Card where
  standard := [
    { Property.formattedName (some "Ann") with group := .text "work" },
    { Property.nickname ["A"] with group := .text "" },
    { Property.ofText "NOTE" (some "n") with group := .text "work" }]

/-- The bucket of the ungrouped comes last, for the signature alone. -/
theorem exists_buckets_alternatingCard :
    (∀ p ∈ alternatingCard.properties, p.HasNamedGroup) ∧
      alternatingCard.bucketNames true = [some "work", some "", none] ∧
      ∃ buckets, alternatingCard.buckets true = .ok buckets ∧
        buckets.ArePartition alternatingCard true := by
  have hgroups : ∀ p ∈ alternatingCard.properties, p.HasNamedGroup := by
    simp [alternatingCard, Card.properties, Roster.members, Roster.allExtended,
      Property.HasNamedGroup]
  exact ⟨hgroups, by decide, Card.exists_buckets_arePartition hgroups true⟩

end ContactCard
