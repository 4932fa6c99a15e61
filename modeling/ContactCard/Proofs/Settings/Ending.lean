import ContactCard.Proofs.Settings.Layers
import ContactCard.Proofs.Settings.References

/-!
# How loading settings ends

Where the root of a file is a mapping, loading ends with settings or with a fault that names the
file, unless it trips.  It trips over an override that is no document or names no place, where a
list and a mapping lie one over the other, over keys that are not known and cannot be put in order
or spelled for the report, and over a log directory that is no path.  What a reference stands for
is not said here, so nothing is said of overrides beside references; of a file alone, which may
hold references, the mapping that it is resolved to decides.
-/

namespace ContactCard

namespace Override

/-- What one override makes of those in front of it. -/
def step (upper : Value) (override : String) : Except OverrideError Value := do
  assign (← valueOf (Key.split override).2) (Key.place (Key.split override).1) upper

/-- What is wrong with an override that loading trips over: the value is no document, or the key
names no place. -/
def OverrideError.Trips : OverrideError → Prop
  | .unreadable e => e ≠ .badKey ∧ ∀ isWhole, e ≠ .unsupported isWhole
  | .noPlace | .badStep _ | .badItem _ _ => True
  | .noItem | .clash => False

/-- Overrides that loading trips over: it comes to one that it trips over, behind others that are
collected. -/
def TripsUp (overrides : List String) : Prop :=
  ∃ before override after upper e, overrides = before ++ override :: after ∧
    collect before = .ok upper ∧ step upper override = .error e ∧ e.Trips

theorem collect_eq_error_iff {overrides : List String} {e : OverrideError} :
    collect overrides = .error e ↔
      ∃ before override after upper, overrides = before ++ override :: after ∧
        collect before = .ok upper ∧ step upper override = .error e :=
  foldlM_eq_error_iff_exists

theorem tripsUp_iff {overrides : List String} :
    TripsUp overrides ↔ ∃ e, collect overrides = .error e ∧ e.Trips := by
  simp only [collect_eq_error_iff]
  constructor
  · rintro ⟨before, override, after, upper, e, hsplit, hbefore, hstep, htrips⟩
    exact ⟨e, ⟨before, override, after, upper, hsplit, hbefore, hstep⟩, htrips⟩
  · rintro ⟨e, ⟨before, override, after, upper, hsplit, hbefore, hstep⟩, htrips⟩
    exact ⟨before, override, after, upper, e, hsplit, hbefore, hstep, htrips⟩

end Override

namespace Settings

variable {path : String}

/-! ## Answers -/

section Answers

variable {α : Type}

/-- A result, or a fault that names the file. -/
def IsAnswered (path : String) (x : Except SettingsError α) : Prop :=
  (∃ a, x = .ok a) ∨ ∃ fault, x = .error (.invalid fault path)

theorem isAnswered_invalid (fault : SettingsFault) :
    IsAnswered path (.error (.invalid fault path) : Except SettingsError α) :=
  .inr ⟨fault, rfl⟩

theorem isAnswered_error_iff {e : SettingsError} :
    IsAnswered path (.error e : Except SettingsError α) ↔ ∃ fault, e = .invalid fault path := by
  simp [IsAnswered]

theorem isAnswered_bind_iff {β : Type} {x : Except SettingsError α}
    {f : α → Except SettingsError β} :
    IsAnswered path (x >>= f) ↔ IsAnswered path x ∧ ∀ a, x = .ok a → IsAnswered path (f a) := by
  cases x with
  | ok a =>
      have hx : IsAnswered path (.ok a : Except SettingsError α) := .inl ⟨a, rfl⟩
      refine ⟨fun h => ⟨hx, ?_⟩, fun h => h.2 a rfl⟩
      rintro other ⟨⟩
      exact h
  | error e =>
      change IsAnswered path (.error e : Except SettingsError β) ↔ _
      rw [isAnswered_error_iff, isAnswered_error_iff]
      exact ⟨fun h => ⟨h, nofun⟩, And.left⟩

theorem isAnswered_collectError_iff {e : Override.OverrideError} :
    IsAnswered path (.error (collectError path e) : Except SettingsError α) ↔ ¬e.Trips := by
  rw [isAnswered_error_iff]
  fun_cases collectError path e with
  | case1 => simp [Override.OverrideError.Trips]
  | case2 => simp [Override.OverrideError.Trips]
  | case3 => simp [Override.OverrideError.Trips]
  | case4 isWhole => simp [Override.OverrideError.Trips]
  | case5 e hclash hitem hkey hunsupported =>
      refine iff_of_false (by simp) (not_not_intro ?_)
      cases e with
      | clash => exact hclash rfl
      | noItem => exact hitem rfl
      | unreadable e =>
          exact ⟨fun h => hkey (congrArg _ h), fun _ h => hunsupported _ (congrArg _ h)⟩
      | noPlace => trivial
      | badStep name => trivial
      | badItem name e => trivial

end Answers

/-! ## Mappings -/

/-- A mapping that the reading of settings trips over. -/
def TripsOver (m : Keyed Scalar Value) : Prop :=
  Description.AreMixed (unknownKeys m) ∨ (∃ key ∈ unknownKeys m, key.isSpelled = false) ∨
    ((∀ check : Check, check.Passes m) ∧
      ∃ v, given m "log_dir" = some v ∧ ¬∃ logDir, IsPath v logDir)

theorem isAnswered_unknownError_iff {keys : List Scalar} :
    IsAnswered path (.error (unknownError path keys) : Except SettingsError Settings) ↔
      ¬Description.AreMixed keys ∧ ∀ key ∈ keys, key.isSpelled = true := by
  rw [isAnswered_error_iff]
  by_cases hmixed : Description.AreMixed keys
  · rw [unknownError_of_areMixed hmixed]
    exact iff_of_false nofun fun h => h.1 hmixed
  · by_cases hspelled : ∀ key ∈ keys, key.isSpelled = true
    · refine iff_of_true ?_ ⟨hmixed, hspelled⟩
      obtain ⟨sorted, hsorted⟩ := unknownError_of_spelled hmixed hspelled
      exact ⟨.unknownKeys sorted, hsorted⟩
    · rw [unknownError_of_not_spelled hmixed hspelled]
      exact iff_of_false nofun fun h => hspelled h.2

/-- The settings of a mapping are read, or a fault is reported, exactly where the reading does not
trip over the mapping. -/
theorem isAnswered_ofEntries_iff {m : Keyed Scalar Value} :
    IsAnswered path (ofEntries path m) ↔ ¬TripsOver m := by
  by_cases hknown : Check.known.Passes m
  · have hnone : unknownKeys m = [] := unknownKeys_eq_nil_iff.2 hknown
    have htrips : TripsOver m ↔ (∀ check : Check, check.Passes m) ∧
        ∃ v, given m "log_dir" = some v ∧ ¬∃ logDir, IsPath v logDir := by
      simp [TripsOver, hnone, Description.AreMixed]
    rw [htrips]
    by_cases hm : ∀ check : Check, check.Passes m
    · by_cases hpath : ∃ logDir, IsGiven m "log_dir" "outs/logs" IsPath logDir
      · obtain ⟨s, hs⟩ := exists_isGivenBy hm hpath
        refine iff_of_true (.inl ⟨s, ofEntries_eq_ok_iff.2 ⟨hm, hs⟩⟩) ?_
        rintro ⟨-, v, hv, hnot⟩
        exact hnot (exists_isGiven_iff.1 hpath v hv)
      · rw [ofEntries_of_no_path hm hpath, isAnswered_error_iff]
        refine iff_of_false (by simp) (not_not_intro ⟨hm, ?_⟩)
        simpa only [exists_isGiven_iff, not_forall, exists_prop] using hpath
    · obtain ⟨check, hcheck⟩ := Check.exists_failsFirst hm
      have hne : check ≠ .known := by
        rintro rfl
        exact hcheck.fails hknown
      refine iff_of_true ?_ fun h => hm h.1
      obtain ⟨fault, hfault, -⟩ := ofEntries_of_failsFirst hcheck hne
      exact .inr ⟨fault, hfault⟩
  · rw [ofEntries_of_not_known hknown, isAnswered_unknownError_iff, TripsOver]
    have hm : ¬∀ check : Check, check.Passes m := fun h => hknown (h .known)
    simp [hm]

/-! ## Files under overrides -/

/-- What overrides make of the root of a file: they are collected and laid over it, the keys of
what is laid can be read, and its texts are taken as they are meant. -/
def IsLaid (base : Value) (overrides : List String) (v : Value) : Prop :=
  ∃ upper raw, Override.collect overrides = .ok upper ∧ Yaml.hasBadKeys upper = false ∧
    Override.overlay base upper = some raw ∧ Yaml.hasBadKeys raw = false ∧ v = Yaml.settled raw

/-- Overrides that cannot be laid over a root. -/
def Clash (base : Value) (overrides : List String) : Prop :=
  ∃ upper, Override.collect overrides = .ok upper ∧ Yaml.hasBadKeys upper = false ∧
    Override.overlay base upper = none

/-- A root and overrides that loading trips over. -/
def Trips (base : Value) (overrides : List String) : Prop :=
  Override.TripsUp overrides ∨ Clash base overrides ∨
    ∃ m, IsLaid base overrides (.mapping m) ∧ TripsOver m

/-- The settings of a laid value, which has to be a mapping. -/
def ofLaid (path : String) : Value → Except SettingsError Settings
  | .mapping entries => ofEntries path entries
  | _ => .error (.invalid .notMapping path)

theorem isAnswered_ofLaid_iff {v : Value} :
    IsAnswered path (ofLaid path v) ↔ ¬∃ m, v = .mapping m ∧ TripsOver m := by
  cases v with
  | mapping m =>
      change IsAnswered path (ofEntries path m) ↔ _
      simpa using isAnswered_ofEntries_iff
  | scalar s => exact iff_of_true (isAnswered_invalid _) (by simp)
  | list items => exact iff_of_true (isAnswered_invalid _) (by simp)
  | pair first second => exact iff_of_true (isAnswered_invalid _) (by simp)

section

variable {r : Yaml.Resolver}

theorem meant_eq_ok_iff {raw v : Value} :
    meant r path raw = .ok v ↔ Yaml.hasBadKeys raw = false ∧ r.resolve raw = some v := by
  rw [meant]
  cases Yaml.hasBadKeys raw with
  | true => simp
  | false =>
      simp only [Bool.false_eq_true, if_false, mapError_eq_ok, Yaml.Resolver.resolved, true_and]
      cases r.resolve raw <;> simp

theorem isAnswered_meant (raw : Value) : IsAnswered path (meant r path raw) := by
  rw [meant, Yaml.Resolver.resolved]
  split
  · exact isAnswered_invalid _
  · split
    · exact .inl ⟨_, rfl⟩
    · exact isAnswered_invalid _

theorem meantUnder_eq_ok_iff {base upper v : Value} :
    meantUnder r path base upper = .ok v ↔ Yaml.hasBadKeys upper = false ∧
      ∃ raw, Override.overlay base upper = some raw ∧ meant r path raw = .ok v := by
  rw [meantUnder]
  cases Yaml.hasBadKeys upper <;> cases Override.overlay base upper <;> simp

theorem isAnswered_meantUnder_iff {base upper : Value} :
    IsAnswered path (meantUnder r path base upper) ↔
      ¬(Yaml.hasBadKeys upper = false ∧ Override.overlay base upper = none) := by
  rw [meantUnder]
  cases Yaml.hasBadKeys upper with
  | true => exact iff_of_true (isAnswered_invalid _) (by simp)
  | false =>
      cases Override.overlay base upper with
      | none => simp [isAnswered_error_iff]
      | some raw => simpa using isAnswered_meant raw

variable {root : Value} {entries : Keyed Scalar Value} {overrides : List String}

theorem layered_of_mapping (hroot : Yaml.root root = .ok (.mapping entries)) :
    layered r path root overrides =
      (Override.collect overrides).mapError (collectError path) >>=
        meantUnder r path (.mapping entries) := by
  cases overrides with
  | nil => exact layered_nil hroot
  | cons override rest => exact layered_of_ne_nil hroot (List.cons_ne_nil override rest)

/-- Whether neither a file nor any value that overrides give refers to another place. -/
def AreFree (entries : Keyed Scalar Value) (overrides : List String) : Prop :=
  Yaml.AreFree entries ∧ ∀ override ∈ overrides, ∀ v,
    Override.valueOf (Override.Key.split override).2 = .ok v → Yaml.refers v = false

theorem AreFree.resolve_eq (hfree : AreFree entries overrides) {upper raw : Value}
    (hupper : Override.collect overrides = .ok upper)
    (hraw : Override.overlay (.mapping entries) upper = some raw) :
    r.resolve raw = some (Yaml.settled raw) := by
  have hbase := (Yaml.refers_mapping_iff entries).2 hfree.1
  exact r.resolve_of_not_refers raw
    (Override.refers_overlay hbase (Override.refers_collect hfree.2 hupper) hraw)

theorem layered_eq_ok_iff (hroot : Yaml.root root = .ok (.mapping entries))
    (hfree : AreFree entries overrides) {v : Value} :
    layered r path root overrides = .ok v ↔ IsLaid (.mapping entries) overrides v := by
  simp only [layered_of_mapping hroot, bind_eq_ok, mapError_eq_ok, meantUnder_eq_ok_iff,
    meant_eq_ok_iff, IsLaid, ← exists_and_left]
  refine exists_congr fun upper => exists_congr fun raw => ?_
  refine and_congr_right fun hupper => and_congr_right fun _ => and_congr_right fun hraw => ?_
  rw [hfree.resolve_eq hupper hraw, Option.some.injEq, @eq_comm _ v]

theorem isAnswered_layered_iff (hroot : Yaml.root root = .ok (.mapping entries)) :
    IsAnswered path (layered r path root overrides) ↔
      ¬(Override.TripsUp overrides ∨ Clash (.mapping entries) overrides) := by
  rw [layered_of_mapping hroot, isAnswered_bind_iff, Override.tripsUp_iff, Clash]
  simp only [mapError_eq_ok, isAnswered_meantUnder_iff]
  cases Override.collect overrides with
  | error e =>
      have he : IsAnswered path ((.error e : Except Override.OverrideError Value).mapError
          (collectError path)) ↔ ¬e.Trips := isAnswered_collectError_iff
      simp [he]
  | ok upper =>
      have hupper : IsAnswered path ((.ok upper : Except Override.OverrideError Value).mapError
          (collectError path)) := .inl ⟨upper, rfl⟩
      simp [hupper]

theorem load_eq_bind : load r path root overrides = layered r path root overrides >>= ofLaid path :=
  rfl

/-- Without references loading ends with settings, or with a fault that names the file, exactly
where it does not trip. -/
theorem isAnswered_load_iff_of_areFree (hroot : Yaml.root root = .ok (.mapping entries))
    (hfree : AreFree entries overrides) :
    IsAnswered path (load r path root overrides) ↔ ¬Trips (.mapping entries) overrides := by
  rw [load_eq_bind, isAnswered_bind_iff, isAnswered_layered_iff hroot, Trips]
  simp only [layered_eq_ok_iff hroot hfree, isAnswered_ofLaid_iff]
  rw [← or_assoc, @not_or (_ ∨ _)]
  refine and_congr_right fun _ => ⟨?_, ?_⟩
  · rintro h ⟨m, hlaid, hover⟩
    exact h _ hlaid ⟨m, rfl, hover⟩
  · rintro h v hlaid ⟨m, rfl, hover⟩
    exact h ⟨m, hlaid, hover⟩

/-- A file alone is answered unless it is resolved to a mapping that loading trips over. -/
theorem isAnswered_load_nil_iff (hroot : Yaml.root root = .ok (.mapping entries)) :
    IsAnswered path (load r path root []) ↔
      ¬∃ m, r.resolve (.mapping entries) = some (.mapping m) ∧ TripsOver m := by
  rw [load_eq_bind, layered_nil hroot, isAnswered_bind_iff]
  simp only [meant_eq_ok_iff, Yaml.hasBadKeys_of_root hroot, isAnswered_ofLaid_iff, true_and]
  refine ⟨?_, fun h => ⟨isAnswered_meant _, ?_⟩⟩
  · rintro ⟨-, h⟩ ⟨m, hm, hover⟩
    exact h _ hm ⟨m, rfl, hover⟩
  · rintro v hv ⟨m, rfl, hover⟩
    exact h ⟨m, hv, hover⟩

end

/-- Loading ends with settings, or with a fault that names the file, exactly where it does not
trip: over what the overrides and the file come to, where nothing in them refers to another place,
and over what the file is resolved to, where it stands alone. -/
theorem isAnswered_load_iff (r : Yaml.Resolver) {root : Value} {entries : Keyed Scalar Value}
    (hroot : Yaml.root root = .ok (.mapping entries)) :
    (∀ overrides, AreFree entries overrides →
      (IsAnswered path (load r path root overrides) ↔ ¬Trips (.mapping entries) overrides)) ∧
    (IsAnswered path (load r path root []) ↔
      ¬∃ m, r.resolve (.mapping entries) = some (.mapping m) ∧ TripsOver m) :=
  ⟨fun _ => isAnswered_load_iff_of_areFree hroot, isAnswered_load_nil_iff hroot⟩

/-- A file with no path for the log. -/
def unloggedFile : Keyed Scalar Value := [(.text "log_dir", .null)]

/-- A file with an indentation that is none besides. -/
def crookedFile : Keyed Scalar Value := (.text "json_indent", .text "wide") :: unloggedFile

/-- A file whose path for the log is a reference. -/
def referringFile : Keyed Scalar Value := [(.text "log_dir", .text "$\x7bnowhere\x7d")]

/-- A file with keys of two kinds that are not known. -/
def mixedFile : Keyed Scalar Value := [(.text "a", .int 1), (.int 1, .int 1)]

/-- The fault of the indentation is reported before loading can trip over the path, and so is a
reference that names nothing. -/
theorem isAnswered_crookedFile :
    (Yaml.root (.mapping crookedFile) = .ok (.mapping crookedFile) ∧ AreFree crookedFile [] ∧
      ¬Trips (.mapping crookedFile) [] ∧
      IsAnswered "settings.yaml" (load .barren "settings.yaml" (.mapping crookedFile) [])) ∧
    Yaml.root (.mapping referringFile) = .ok (.mapping referringFile) ∧
      Yaml.Resolver.barren.resolve (.mapping referringFile) = none ∧
      IsAnswered "settings.yaml" (load .barren "settings.yaml" (.mapping referringFile) []) := by
  have hfree : AreFree crookedFile [] := by
    refine ⟨(Yaml.refers_mapping_iff crookedFile).1 (by decide +kernel), ?_⟩
    simp
  have hsteady : ¬Trips (.mapping crookedFile) [] := by
    rintro (⟨before, _, _, _, _, hsplit, -⟩ | ⟨upper, hupper, -, hnone⟩ |
      ⟨m, ⟨upper, raw, hupper, -, hraw, -, hm⟩, hover⟩)
    · exact List.append_ne_nil_of_right_ne_nil before (List.cons_ne_nil _ _) hsplit.symm
    · obtain rfl : Value.mapping [] = upper := Except.ok.inj hupper
      cases hnone
    · obtain rfl : Value.mapping [] = upper := Except.ok.inj hupper
      obtain rfl : Value.mapping crookedFile = raw := Option.some.inj hraw
      obtain rfl : m = crookedFile := Value.mapping.inj hm
      have hnone : unknownKeys crookedFile = [] := rfl
      rcases hover with hmixed | ⟨key, hkey, -⟩ | ⟨hpasses, -⟩
      · exact absurd hmixed.1 (by decide)
      · rw [hnone] at hkey
        cases hkey
      · obtain ⟨indent, hindent⟩ := hpasses .jsonIndent
        cases indent <;> cases hindent
  have hroot : Yaml.root (.mapping crookedFile) = .ok (.mapping crookedFile) := rfl
  have hanswered : IsAnswered "settings.yaml"
      (load .barren "settings.yaml" (.mapping crookedFile) []) :=
    ((isAnswered_load_iff .barren hroot).1 [] hfree).2 hsteady
  have hrefers : Yaml.refers (.mapping referringFile) = true := by decide +kernel
  have hnowhere : Yaml.Resolver.barren.resolve (.mapping referringFile) = none := by
    simp only [Yaml.Resolver.barren, hrefers, if_true]
  have hreferring : Yaml.root (.mapping referringFile) = .ok (.mapping referringFile) := rfl
  refine ⟨⟨hroot, hfree, hsteady, hanswered⟩, hreferring, hnowhere, ?_⟩
  refine (isAnswered_load_iff .barren hreferring).2.2 ?_
  rintro ⟨m, hm, -⟩
  rw [hnowhere] at hm
  cases hm

/-- A file without a path for the log, one with unknown keys of two kinds, and an override that is
no document leave loading without an answer. -/
theorem not_isAnswered_unloggedFile :
    (Yaml.root (.mapping unloggedFile) = .ok (.mapping unloggedFile) ∧
      ¬IsAnswered "settings.yaml" (load .barren "settings.yaml" (.mapping unloggedFile) [])) ∧
    (Yaml.root (.mapping mixedFile) = .ok (.mapping mixedFile) ∧
      ¬IsAnswered "settings.yaml" (load .barren "settings.yaml" (.mapping mixedFile) [])) ∧
    Yaml.root (.mapping []) = .ok (.mapping []) ∧
      ¬IsAnswered "settings.yaml"
        (load .barren "settings.yaml" (.mapping []) ["target_version=["]) := by
  refine ⟨⟨rfl, ?_⟩, ⟨rfl, ?_⟩, rfl, ?_⟩
  · have hload : load .barren "settings.yaml" (.mapping unloggedFile) [] = .error .notPath := rfl
    rw [hload, isAnswered_error_iff]
    exact nofun
  · have hload : load .barren "settings.yaml" (.mapping mixedFile) [] = .error .mixedKeys := rfl
    rw [hload, isAnswered_error_iff]
    exact nofun
  · have hbad : (load .barren "settings.yaml" (.mapping []) ["target_version=["] matches
        .error (.badOverride _)) = true := by decide +kernel
    split at hbad
    · next e hload =>
      rw [hload, isAnswered_error_iff]
      exact nofun
    · cases hbad

end Settings

end ContactCard
