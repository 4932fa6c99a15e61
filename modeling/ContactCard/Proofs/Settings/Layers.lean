import ContactCard.Proofs.Settings.Checks
import ContactCard.Proofs.Yaml.Keys

/-!
# Overrides of root keys

Overrides are collected in a mapping of their own, which is then laid over that of the file.
Where each of them names one key of the root, and its value takes the place of what stands there,
what is laid is the mapping of the file with the values put in one after another.
-/

namespace ContactCard

/-! ## Values that are laid over others -/

namespace Override

/-- A value that takes the place of another one when it is laid over it. -/
def Replaces (v old : Value) : Prop := overlay old v = some v

/-- Each value in a row takes the place of what stands under its key, in the mapping below and in
the row before it. -/
def AllReplace (entries gifts : List (Scalar × Value)) : Prop :=
  ∀ before key v after, gifts = before ++ (key, v) :: after →
    ∀ old, (key, old) ∈ entries ∨ (key, old) ∈ before → Replaces v old

/-- An override that gives a value for one key of the root. -/
def Gives (override : String) (gift : Scalar × Value) : Prop :=
  ∃ name, Key.place (Key.split override).1 = [name] ∧ gift.1 = .text name ∧
    valueOf (Key.split override).2 = .ok gift.2

theorem gives_of_read {override key name s : String} {v : Value}
    (hsplit : Key.split override = (key, some s)) (hplace : Key.place key = [name])
    (hread : Yaml.read s = .ok v) : Gives override (.text name, v) := by
  refine ⟨name, ?_, rfl, ?_⟩
  · rw [hsplit]
    exact hplace
  · rw [hsplit]
    exact mapError_eq_ok.2 hread

theorem replaces_scalar {s : Scalar} (hs : isPending (.scalar s) = false) (old : Value) :
    Replaces (.scalar s) old := by
  rw [Replaces, overlay, hs]
  rfl

theorem allReplace_of_scalars {gifts : List (Scalar × Value)}
    (h : ∀ gift ∈ gifts, ∃ s, gift.2 = .scalar s ∧ isPending (.scalar s) = false)
    (entries : List (Scalar × Value)) : AllReplace entries gifts := by
  rintro before key v after rfl old -
  obtain ⟨s, rfl, hs⟩ := h (key, v) (by simp)
  exact replaces_scalar hs old

theorem Gives.hasBadKeys {override : String} {gift : Scalar × Value} (h : Gives override gift) :
    Yaml.hasBadKeys gift.2 = false := by
  obtain ⟨_, -, -, hvalue⟩ := h
  generalize (Key.split override).2 = written at hvalue
  cases written with
  | none =>
      rw [← Except.ok.inj hvalue]
      rfl
  | some s => exact Yaml.hasBadKeys_of_read (mapError_eq_ok.1 hvalue)

theorem areTexts_of_gives {overrides : List String} {gifts : List (Scalar × Value)}
    (h : List.Forall₂ Gives overrides gifts) : AreTexts gifts := by
  induction h with
  | nil => simp [AreTexts]
  | cons hgives _ ih =>
      obtain ⟨name, -, hkey, -⟩ := hgives
      exact List.forall_mem_cons.2 ⟨⟨name, hkey⟩, ih⟩

theorem hasBadKeys_of_gives {overrides : List String} {gifts : List (Scalar × Value)}
    (h : List.Forall₂ Gives overrides gifts) :
    ∀ gift ∈ gifts, Yaml.hasBadKeys gift.2 = false := by
  induction h with
  | nil => simp
  | cons hgives _ ih => exact List.forall_mem_cons.2 ⟨hgives.hasBadKeys, ih⟩

theorem keyNamed_of_areTexts {t : Keyed Scalar Value} (ht : AreTexts t) (name : String) :
    keyNamed t name = .text name := by
  rw [keyNamed]
  split
  · rfl
  · split
    · next n _ =>
      have hn : ¬t.keys.contains (.int n) = true := by
        rw [List.contains_iff_mem, Keyed.keys, List.mem_map]
        rintro ⟨entry, hentry, heq⟩
        obtain ⟨word, hword⟩ := ht entry hentry
        rw [hword] at heq
        cases heq
      rw [if_neg hn]
    · rfl

theorem replaced_eq_ok {old : Option Value} {v : Value}
    (h : ∀ given, old = some given → Replaces v given) : replaced old v = .ok v := by
  cases old with
  | none => rfl
  | some given =>
      rw [replaced, h given rfl]
      split <;> rfl

/-- To assign a value to one key of the root is to put it in. -/
theorem assign_root {t : Keyed Scalar Value} (ht : AreTexts t) {name : String} {v : Value}
    (hv : ∀ old, (.text name, old) ∈ t → Replaces v old) :
    assign v [name] (.mapping t) = .ok (.mapping (Keyed.insert t (.text name) v)) := by
  have hreplaced : replaced (Keyed.lookup t (.text name)) v = .ok v :=
    replaced_eq_ok fun old hold => hv old ((Scalar.isPlain_text name).mem_of_lookup hold)
  rw [assign, keyNamed_of_areTexts ht, List.isEmpty_nil, if_pos rfl, hreplaced]
  rfl

/-- Overrides of keys of the root are collected in the order in which they give values. -/
theorem foldlM_assign {overrides : List String} {gifts : List (Scalar × Value)}
    (hgifts : List.Forall₂ Gives overrides gifts) {entries before : List (Scalar × Value)}
    (hbefore : AreTexts before) (hreplace : AllReplace entries (before ++ gifts)) :
    overrides.foldlM (fun root override => do
        let (key, written) := Key.split override
        assign (← valueOf written) (Key.place key) root)
      (.mapping (Keyed.insertAll [] before)) =
      .ok (.mapping (Keyed.insertAll [] (before ++ gifts))) := by
  induction hgifts generalizing before with
  | nil => rw [List.append_nil]; rfl
  | @cons override gift overrides gifts hgives _ ih =>
      obtain ⟨key, v⟩ := gift
      obtain ⟨name, hplace, rfl, hvalue⟩ := hgives
      have hlast : AreTexts [(.text name, v)] := List.forall_mem_singleton.2 ⟨name, rfl⟩
      have hnow : AreTexts (Keyed.insertAll [] before) :=
        AreTexts.insertAll (by simp [AreTexts]) hbefore
      have hv : ∀ old, (.text name, old) ∈ Keyed.insertAll [] before → Replaces v old := by
        intro old hold
        have hmem := (hbefore.arePlain.mem_insertAll hold).resolve_left (by simp)
        exact hreplace before _ v gifts rfl old (.inr hmem)
      have hstep : (do
          let (key, written) := Key.split override
          assign (← valueOf written) (Key.place key) (.mapping (Keyed.insertAll [] before))) =
          .ok (.mapping (Keyed.insertAll [] (before ++ [(.text name, v)]))) := by
        dsimp only
        rw [hvalue, hplace, Keyed.insertAll_append]
        exact assign_root hnow hv
      rw [List.append_cons] at hreplace ⊢
      rw [List.foldlM_cons, hstep]
      exact ih (List.forall_mem_append.2 ⟨hbefore, hlast⟩) hreplace

theorem collect_of_gives {overrides : List String} {gifts : List (Scalar × Value)}
    (hgifts : List.Forall₂ Gives overrides gifts) {entries : List (Scalar × Value)}
    (hreplace : AllReplace entries gifts) :
    collect overrides = .ok (.mapping (Keyed.insertAll [] gifts)) := by
  have hnone : AreTexts [] := by simp [AreTexts]
  exact foldlM_assign hgifts hnone hreplace

/-- Values that replace what stands under their keys are put in when they are laid. -/
theorem overlayEntries_eq_some {pairs : Keyed Scalar Value} (hpairs : Keyed.ArePlain pairs)
    (hnodup : pairs.keys.Nodup) {base : Keyed Scalar Value}
    (hbase : ∀ key v old, (key, v) ∈ pairs → Keyed.lookup base key = some old → Replaces v old) :
    overlayEntries base pairs = some (Keyed.insertAll base pairs) := by
  induction pairs generalizing base with
  | nil => rfl
  | cons entry rest ih =>
      obtain ⟨key, v⟩ := entry
      obtain ⟨hkey, hrest⟩ := List.forall_mem_cons.1 hpairs
      obtain ⟨hfresh, hnodup⟩ := List.nodup_cons.1 hnodup
      have hlater : overlayEntries (Keyed.insert base key v) rest =
          some (Keyed.insertAll (Keyed.insert base key v) rest) := by
        refine ih hrest hnodup fun other w old hmem hlookup => ?_
        have hne : key ≠ other := by
          rintro rfl
          exact hfresh (List.mem_map.2 ⟨_, hmem, rfl⟩)
        rw [Keyed.lookup_insert_of_ne hkey (hrest _ hmem) hne] at hlookup
        exact hbase other w old (List.mem_cons_of_mem _ hmem) hlookup
      rw [overlayEntries]
      cases hlookup : Keyed.lookup base key with
      | none => exact hlater
      | some old =>
          have hlaid : overlay old v = some v := hbase key v old List.mem_cons_self hlookup
          dsimp only
          rw [hlaid]
          exact hlater

end Override

/-! ## Settings under overrides -/

namespace Settings

/-- What a laid value means, if it can be read. -/
def meant (r : Yaml.Resolver) (path : String) (v : Value) : Except SettingsError Value :=
  if Yaml.hasBadKeys v then .error (.invalid .unreadable path)
  else (r.resolved v).mapError fun _ => .invalid .unreadable path

/-- How loading ends over overrides that cannot be collected. -/
def collectError (path : String) : Override.OverrideError → SettingsError
  | .clash | .noItem | .unreadable .badKey | .unreadable (.unsupported _) =>
    .invalid .unreadable path
  | e => .badOverride e

/-- What is meant by collected overrides that are laid over a root. -/
def meantUnder (r : Yaml.Resolver) (path : String) (base upper : Value) :
    Except SettingsError Value :=
  if Yaml.hasBadKeys upper then .error (.invalid .unreadable path)
  else (Override.overlay base upper).elim (.error (.badOverride .clash)) (meant r path)

section

variable {r : Yaml.Resolver} {path : String} {root base : Value}

theorem layered_nil (hroot : Yaml.root root = .ok base) :
    layered r path root [] = meant r path base := by
  rw [layered, hroot, meant]
  change (if Yaml.hasBadKeys base then _ else _) = _
  split <;> rfl

theorem layered_of_ne_nil (hroot : Yaml.root root = .ok base) {overrides : List String}
    (hne : overrides ≠ []) :
    layered r path root overrides =
      (Override.collect overrides).mapError (collectError path) >>= meantUnder r path base := by
  obtain ⟨override, rest, rfl⟩ := List.exists_cons_of_ne_nil hne
  rw [layered, hroot]
  cases Override.collect (override :: rest) with
  | error e => rfl
  | ok upper =>
      change (if Yaml.hasBadKeys upper then _ else _) = meantUnder r path base upper
      rw [meantUnder]
      split
      · rfl
      · cases Override.overlay base upper with
        | none => rfl
        | some v =>
            change (if Yaml.hasBadKeys v then _ else _) = meant r path v
            rw [meant]
            split <;> rfl

end

/-- A file whose root is a mapping with text keys, and overrides that give values for keys of the
root, which replace what stands there.  No value refers to another place. -/
structure AreLayers (root : Value) (overrides : List String)
    (entries gifts : Keyed Scalar Value) : Prop where
  root : Yaml.root root = .ok (.mapping entries)
  texts : AreTexts entries
  gives : List.Forall₂ Override.Gives overrides gifts
  replace : Override.AllReplace entries gifts
  refers : Yaml.refers (.mapping (Keyed.insertAll entries gifts)) = false

/-- The mapping of a file with values put in one after another, each text as it is meant. -/
def laid (entries gifts : Keyed Scalar Value) : Keyed Scalar Value :=
  Yaml.settledEntries (Keyed.insertAll entries gifts)

variable {root : Value} {overrides : List String} {entries gifts : Keyed Scalar Value}

theorem AreLayers.hasBadKeys_eq_false (h : AreLayers root overrides entries gifts) :
    Yaml.hasBadKeys (.mapping (Keyed.insertAll entries gifts)) = false := by
  have hroot := (Yaml.hasBadKeys_mapping_iff entries).1 (Yaml.hasBadKeys_of_root h.root)
  exact Yaml.hasBadKeys_insertAll h.texts (Override.areTexts_of_gives h.gives) hroot.2
    (Override.hasBadKeys_of_gives h.gives)

theorem AreLayers.overlay_eq_some (h : AreLayers root overrides entries gifts) :
    Override.overlay (.mapping entries) (.mapping (Keyed.insertAll [] gifts)) =
      some (.mapping (Keyed.insertAll entries gifts)) := by
  have hgifts : Keyed.ArePlain gifts := (Override.areTexts_of_gives h.gives).arePlain
  have hreplaces : ∀ key v old, (key, v) ∈ Keyed.insertAll [] gifts →
      Keyed.lookup entries key = some old → Override.Replaces v old := by
    intro key v old hmem hlookup
    have hgift := (hgifts.mem_insertAll hmem).resolve_left (by simp)
    obtain ⟨before, after, hsplit⟩ := List.append_of_mem hgift
    exact h.replace before key v after hsplit old (.inl ((hgifts _ hgift).mem_of_lookup hlookup))
  have hplain : Keyed.ArePlain (Keyed.insertAll [] gifts) :=
    Keyed.ArePlain.insertAll (by simp [Keyed.ArePlain]) hgifts
  rw [Override.overlay, Override.overlayEntries_eq_some hplain
    (hgifts.nodup_keys_insertAll List.nodup_nil) hreplaces, Keyed.insertAll_insertAll hgifts]
  rfl

/-- What is laid is the mapping of the file with the values of the overrides put in. -/
theorem AreLayers.layered_eq_ok (h : AreLayers root overrides entries gifts) (r : Yaml.Resolver)
    (path : String) : layered r path root overrides = .ok (.mapping (laid entries gifts)) := by
  have hmeant : meant r path (.mapping (Keyed.insertAll entries gifts)) =
      .ok (.mapping (laid entries gifts)) := by
    rw [meant, h.hasBadKeys_eq_false, Yaml.Resolver.resolved, r.resolve_of_not_refers _ h.refers]
    rfl
  cases overrides with
  | nil =>
      rw [List.forall₂_nil_left_iff.1 h.gives] at hmeant ⊢
      rw [layered_nil h.root]
      exact hmeant
  | cons override rest =>
      have hupper : Yaml.hasBadKeys (.mapping (Keyed.insertAll [] gifts)) = false :=
        Yaml.hasBadKeys_insertAll (by simp [AreTexts]) (Override.areTexts_of_gives h.gives)
          (by simp) (Override.hasBadKeys_of_gives h.gives)
      rw [layered_of_ne_nil h.root (by simp), Override.collect_of_gives h.gives h.replace]
      change meantUnder r path _ _ = _
      rw [meantUnder, hupper, h.overlay_eq_some]
      exact hmeant

theorem AreLayers.load_eq (h : AreLayers root overrides entries gifts) (r : Yaml.Resolver)
    (path : String) : load r path root overrides = ofEntries path (laid entries gifts) := by
  rw [load, h.layered_eq_ok]
  rfl

theorem AreLayers.areTexts_laid (h : AreLayers root overrides entries gifts) :
    AreTexts (laid entries gifts) :=
  (h.texts.insertAll (Override.areTexts_of_gives h.gives)).settledEntries

/-- Keys that are not known can be reported where all keys are texts. -/
theorem unknownError_of_areTexts {m : Keyed Scalar Value} (hm : AreTexts m) (path : String) :
    ∃ keys, unknownError path (unknownKeys m) = .invalid (.unknownKeys keys) path := by
  have htexts : ∀ key ∈ unknownKeys m, ∃ name, key = .text name := by
    intro key hkey
    obtain ⟨entry, hentry, rfl⟩ := List.mem_map.1 (List.mem_filter.1 hkey).1
    exact hm entry hentry
  refine unknownError_of_spelled ?_ ?_
  · rintro ⟨-, ⟨key, hkey, htext⟩, -⟩
    obtain ⟨name, rfl⟩ := htexts key hkey
    cases htext
  · intro key hkey
    obtain ⟨name, rfl⟩ := htexts key hkey
    rfl

/-- Settings of a file under overrides are those that the laid mapping gives, which has to pass
all checks.  Where it does not, some check is the first to fail, and the key of just that check is
reported. -/
theorem load_eq_ok_iff_passes (h : AreLayers root overrides entries gifts)
    (hlog : ∀ v, given (laid entries gifts) "log_dir" = some v → ∃ s, v = .text s)
    (r : Yaml.Resolver) (path : String) :
    (∀ s, load r path root overrides = .ok s ↔
      (∀ check : Check, check.Passes (laid entries gifts)) ∧ s.IsGivenBy (laid entries gifts)) ∧
    ((∃ s, load r path root overrides = .ok s) ↔
      ∀ check : Check, check.Passes (laid entries gifts)) ∧
    ((¬∀ check : Check, check.Passes (laid entries gifts)) →
      ∃ check : Check, check.FailsFirst (laid entries gifts)) ∧
    ∀ check : Check, check.FailsFirst (laid entries gifts) →
      ∃ fault, load r path root overrides = .error (.invalid fault path) ∧
        fault.key? = check.key? := by
  rw [h.load_eq r path]
  refine ⟨fun s => ofEntries_eq_ok_iff, ?_, Check.exists_failsFirst, fun check hcheck => ?_⟩
  · constructor
    · rintro ⟨s, hs⟩
      exact (ofEntries_eq_ok_iff.1 hs).1
    · intro hpasses
      have hpath : ∃ logDir, IsGiven (laid entries gifts) "log_dir" "outs/logs" IsPath logDir := by
        refine exists_isGiven_iff.2 fun v hv => ?_
        obtain ⟨s, rfl⟩ := hlog v hv
        exact ⟨_, .inl ⟨s, rfl, rfl⟩⟩
      obtain ⟨s, hs⟩ := exists_isGivenBy hpasses hpath
      exact ⟨s, ofEntries_eq_ok_iff.2 ⟨hpasses, hs⟩⟩
  · by_cases hknown : check = .known
    · subst hknown
      obtain ⟨keys, hkeys⟩ := unknownError_of_areTexts h.areTexts_laid path
      exact ⟨_, (ofEntries_of_not_known hcheck.fails).trans (congrArg _ hkeys), rfl⟩
    · exact ofEntries_of_failsFirst hcheck hknown

/-- Whether a value is an integer. -/
def isInt (n : Int) : Value → Bool
  | .int m => m == n
  | _ => false

theorem read_eq_int {s : String} {n : Int} (h : (Yaml.read s).toOption.any (isInt n) = true) :
    Yaml.read s = .ok (.int n) := by
  cases hread : Yaml.read s with
  | error e =>
      rw [hread] at h
      cases h
  | ok v =>
      rw [hread] at h
      change isInt n v = true at h
      rw [isInt.eq_def] at h
      split at h
      · next m => rw [beq_iff_eq.1 h]
      · cases h

/-- A file with an indentation that is none. -/
def wideFile : Keyed Scalar Value :=
  [(.text "target_version", .text " 3.0"), (.text "json_indent", .text "wide")]

/-- Two indentations, one after the other. -/
def indents : Keyed Scalar Value := [(.text "json_indent", .int 4), (.text "json_indent", .int 2)]

/-- The later one of two overrides stands in the place of what is no indentation. -/
theorem load_wideFile :
    AreLayers (.mapping wideFile) ["json_indent=4", "json_indent=2"] wideFile indents ∧
      load .barren "settings.yaml" (.mapping wideFile) ["json_indent=4", "json_indent=2"] =
        .ok { version := .v30, jsonIndent := some 2 } := by
  have hplace : Override.Key.place "json_indent" = ["json_indent"] := by cbv
  have hfour : Yaml.read "4" = .ok (.int 4) := read_eq_int (by decide +kernel)
  have htwo : Yaml.read "2" = .ok (.int 2) := read_eq_int (by decide +kernel)
  have hlayers : AreLayers (.mapping wideFile) ["json_indent=4", "json_indent=2"]
      wideFile indents := {
    root := rfl
    texts := by simp [AreTexts, wideFile]
    gives := .cons (Override.gives_of_read (by decide) hplace hfour)
      (.cons (Override.gives_of_read (by decide) hplace htwo) .nil)
    replace := by
      refine Override.allReplace_of_scalars (List.forall_mem_cons.2 ⟨⟨_, rfl, rfl⟩, ?_⟩) _
      exact List.forall_mem_singleton.2 ⟨_, rfl, rfl⟩
    refers := by decide +kernel }
  have hlaid : laid wideFile indents =
      [(.text "target_version", .text " 3.0"), (.text "json_indent", .int 2)] := rfl
  have hgiven : ({ version := .v30, jsonIndent := some 2 } : Settings).IsGivenBy
      (laid wideFile indents) := by
    rw [hlaid]
    exact ⟨⟨rfl, by decide⟩, rfl, rfl, rfl, rfl, rfl⟩
  have hknown : Check.known.Passes (laid wideFile indents) := by
    rw [hlaid]
    simp [Check.Passes, Keyed.keys, SettingsFault.knownKeys]
  have hlog : ∀ v, given (laid wideFile indents) "log_dir" = some v → ∃ s, v = .text s := by
    rw [hlaid]
    intro v hv
    cases hv
  exact ⟨hlayers, ((load_eq_ok_iff_passes hlayers hlog _ _).1 _).2 ⟨hgiven.passes hknown, hgiven⟩⟩

end Settings

end ContactCard
