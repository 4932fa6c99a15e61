import ContactCard.Description.Card
import ContactCard.Proofs.Emission

/-!
# What descriptions describe

A description that is accepted gives a card of plain properties.  The standard ones are those
that the keys stand for and the extended ones are raw: their names are in upper case, their
classes have no hooks, and their lists are separated by commas or semicolons.  Everything else
about a property, its group, parameters and values, is up to the description.
-/

namespace ContactCard

/-! ## Properties and cards that descriptions build -/

/-- A standard property that a key stands for, before it has a group and parameters. -/
inductive Property.IsNamedByKey : Property → Prop
  | formattedName (value : Option String) : IsNamedByKey (.formattedName value)
  | kind (value : Option String) : IsNamedByKey (.kind value)
  | mailer (value : Option String) : IsNamedByKey (.mailer value)
  | member (uri : Option String) : IsNamedByKey (.member uri)
  | nickname (values : List String) : IsNamedByKey (.nickname values)
  | categories (values : List String) : IsNamedByKey (.categories values)
  | organization (values : List String) : IsNamedByKey (.organization values)

/-- A property with any group and parameters. -/
def Property.Completes (p made : Property) : Prop :=
  ∃ group parameters, p = { made with group := group, parameters := parameters }

structure Card.IsBuilt (card : Card) : Prop where
  standard : ∀ p ∈ card.standard, ∃ made, made.IsNamedByKey ∧ p.Completes made
  extended : ∀ p ∈ card.allExtended, ∃ name value, p.Completes (.raw name value)

theorem Card.IsBuilt.empty : Card.IsBuilt .empty := by
  constructor <;> simp [Roster.empty, Roster.allExtended]

theorem Card.IsBuilt.add {card : Card} (hcard : card.IsBuilt) {made p : Property}
    (hmade : made.IsNamedByKey) (hp : p.Completes made) : (card.add p).IsBuilt := by
  refine ⟨fun q hq => ?_, hcard.extended⟩
  rcases List.mem_append.1 hq with hq | hq
  · exact hcard.standard q hq
  · rw [List.mem_singleton.1 hq]
    exact ⟨made, hmade, hp⟩

theorem Card.IsBuilt.addExtended {card : Card} (hcard : card.IsBuilt) {p : Property}
    (hp : ∃ name value, p.Completes (.raw name value)) : (card.addExtended p).IsBuilt := by
  refine ⟨hcard.standard, fun q hq => ?_⟩
  have hmem := (Keyed.perm_flatMap_alter card.extended (Text.upper p.name) p).mem_iff.1 hq
  rcases List.mem_append.1 hmem with hq | hq
  · exact hcard.extended q hq
  · rwa [List.mem_singleton.1 hq]

namespace Description

theorem completes_of_finish {field : String} {entry : Entry} {made p : Property}
    (hfinish : finish field entry made = .ok p) : p.Completes made := by
  obtain ⟨t, -, hp⟩ := bind_eq_ok.1 hfinish
  cases hp
  exact ⟨_, _, rfl⟩

theorem completes_of_textProperty {field : String} {make : Option String → Property} {raw : Value}
    {p : Property} (hp : textProperty field make raw = .ok p) :
    ∃ value, p.Completes (make value) := by
  obtain ⟨entry, -, hentry⟩ := bind_eq_ok.1 hp
  split at hentry
  · cases hentry
  · cases hentry
  all_goals
    obtain ⟨value, -, hvalue⟩ := bind_eq_ok.1 hentry
    exact ⟨value, completes_of_finish hvalue⟩

theorem completes_of_listProperty {field : String} {make : List String → Property} {raw : Value}
    {p : Property} (hp : listProperty field make raw = .ok p) :
    ∃ values, p.Completes (make values) := by
  obtain ⟨entry, -, hentry⟩ := bind_eq_ok.1 hp
  obtain ⟨values, -, hvalues⟩ := bind_eq_ok.1 hentry
  exact ⟨values, completes_of_finish hvalues⟩

theorem completes_of_extendedProperty {raw : Value} {p : Property}
    (hp : extendedProperty raw = .ok p) : ∃ name value, p.Completes (.raw name value) := by
  cases raw with
  | mapping entries =>
      rw [extendedProperty] at hp
      split at hp
      · cases hp
      · obtain ⟨name, -, hname⟩ := bind_eq_ok.1 hp
        obtain ⟨value, -, hvalue⟩ := bind_eq_ok.1 hname
        exact ⟨name, value, completes_of_finish hvalue⟩
  | scalar s => cases hp
  | list items => cases hp
  | pair first second => cases hp

theorem isBuilt_add_text {card next : Card} (hcard : card.IsBuilt) {field : String}
    {make : Option String → Property} (hmake : ∀ value, (make value).IsNamedByKey) {raw : Value}
    (hnext : card.add <$> textProperty field make raw = .ok next) : next.IsBuilt := by
  obtain ⟨p, hp, rfl⟩ := map_eq_ok.1 hnext
  obtain ⟨value, hvalue⟩ := completes_of_textProperty hp
  exact hcard.add (hmake value) hvalue

theorem isBuilt_add_list {card next : Card} (hcard : card.IsBuilt) {field : String}
    {make : List String → Property} (hmake : ∀ values, (make values).IsNamedByKey) {raw : Value}
    (hnext : card.add <$> listProperty field make raw = .ok next) : next.IsBuilt := by
  obtain ⟨p, hp, rfl⟩ := map_eq_ok.1 hnext
  obtain ⟨values, hvalues⟩ := completes_of_listProperty hp
  exact hcard.add (hmake values) hvalues

/-- Whatever a key stands for, only properties of its class are added. -/
theorem isBuilt_addKey {card next : Card} {key : Scalar} {raw : Value} (hcard : card.IsBuilt)
    (hnext : addKey card key raw = .ok next) : next.IsBuilt := by
  -- The cases are the keys in their order; members and extended entries come in lists,
  -- each with an induction of its own.
  unfold addKey at hnext
  split at hnext
  case h_1 => exact isBuilt_add_text hcard .formattedName hnext
  case h_2 => exact isBuilt_add_text hcard .kind hnext
  case h_3 => exact isBuilt_add_text hcard .mailer hnext
  case h_4 =>
    exact foldlM_ok_induction (motive := fun _ card => Card.IsBuilt card) hcard
      (fun _ _ _ _ hbefore hafter => isBuilt_add_text hbefore .member hafter) hnext
  case h_5 => exact isBuilt_add_list hcard .nickname hnext
  case h_6 => exact isBuilt_add_list hcard .categories hnext
  case h_7 => exact isBuilt_add_list hcard .organization hnext
  case h_8 =>
    obtain ⟨items, -, hitems⟩ := bind_eq_ok.1 hnext
    refine foldlM_ok_induction (motive := fun _ card => Card.IsBuilt card) hcard ?_ hitems
    intro _ _ before _ hbefore hafter
    obtain ⟨p, hp, rfl⟩ := map_eq_ok.1 hafter
    exact hbefore.addExtended (completes_of_extendedProperty hp)
  case h_9 => cases hnext

end Description

theorem Card.isBuilt_of_ofValue {v : Value} {card : Card} (hcard : Card.ofValue v = .ok card) :
    card.IsBuilt := by
  cases v with
  | mapping entries =>
      exact foldlM_ok_induction (motive := fun _ card => Card.IsBuilt card) .empty
        (fun _ _ _ _ hbefore hafter => Description.isBuilt_addKey hbefore hafter) hcard
  | scalar s => cases hcard
  | list items => cases hcard
  | pair first second => cases hcard

/-! ## Described properties -/

/-- What every property has that comes from a description. -/
structure Property.IsDescribed (p : Property) : Prop where
  upper_name : Text.upper p.name = p.name
  not_isHooked : ¬p.IsHooked
  separator : ∀ cls separator values, p.body = .list cls separator values →
    separator = ',' ∨ separator = ';'

theorem Property.isDescribed_text {name : String} (hname : Text.upper name = name)
    {cls : TextClass} (hcls : ∀ hooks, cls ≠ .hooked hooks) (group : Value)
    (parameters : Parameters) (value : Option String) :
    Property.IsDescribed ⟨name, group, parameters, .text cls value⟩ := by
  refine ⟨hname, ?_, ?_⟩
  · rintro ⟨hooks, s, hhooked⟩
    exact hcls hooks (Body.text.inj hhooked).1
  · intro _ _ _ hlist
    cases hlist

theorem Property.isDescribed_list {name : String} (hname : Text.upper name = name)
    {separator : Char} (hseparator : separator = ',' ∨ separator = ';') (cls : ListClass)
    (group : Value) (parameters : Parameters) (values : List String) :
    Property.IsDescribed ⟨name, group, parameters, .list cls separator values⟩ := by
  refine ⟨hname, ?_, ?_⟩
  · rintro ⟨_, _, hhooked⟩
    cases hhooked
  · intro _ _ _ hlist
    exact (Body.list.inj hlist).2.1 ▸ hseparator

/-- Every property of a card that is described is a described one. -/
theorem Card.isDescribed_of_ofValue {v : Value} {card : Card} (hcard : Card.ofValue v = .ok card) :
    ∀ p ∈ card.properties, p.IsDescribed := by
  have hbuilt := Card.isBuilt_of_ofValue hcard
  intro p hp
  rcases List.mem_append.1 hp with hp | hp
  · obtain ⟨made, hmade, group, parameters, rfl⟩ := hbuilt.standard p hp
    cases hmade with
    | formattedName value =>
        have hname : Text.upper "FN" = "FN" := by decide
        exact Property.isDescribed_text hname (by simp) group parameters value
    | kind value =>
        have hname : Text.upper "KIND" = "KIND" := by decide
        exact Property.isDescribed_text hname (by simp) group parameters value
    | mailer value =>
        have hname : Text.upper "MAILER" = "MAILER" := by decide
        exact Property.isDescribed_text hname (by simp) group parameters value
    | member uri =>
        have hname : Text.upper "MEMBER" = "MEMBER" := by decide
        exact Property.isDescribed_text hname (by simp) group parameters uri
    | nickname values =>
        have hname : Text.upper "NICKNAME" = "NICKNAME" := by decide
        exact Property.isDescribed_list hname (.inl rfl) .nickname group parameters values
    | categories values =>
        have hname : Text.upper "CATEGORIES" = "CATEGORIES" := by decide
        exact Property.isDescribed_list hname (.inl rfl) .categories group parameters values
    | organization values =>
        have hname : Text.upper "ORG" = "ORG" := by decide
        exact Property.isDescribed_list hname (.inr rfl) .organization group parameters values
  · obtain ⟨name, value, group, parameters, rfl⟩ := hbuilt.extended p hp
    exact Property.isDescribed_text (Text.upper_upper name) (by simp) group parameters value

theorem Card.isDescribed_listed {v : Value} {card : Card} (hcard : Card.ofValue v = .ok card)
    (addGenerator : Bool) : ∀ p ∈ card.listed addGenerator, p.IsDescribed := by
  intro p hp
  rcases Card.mem_or_eq_of_mem_listed hp with hmem | rfl
  · exact Card.isDescribed_of_ofValue hcard p hmem
  · exact Property.isDescribed_text (by decide) (by simp) .null .empty _

end ContactCard
