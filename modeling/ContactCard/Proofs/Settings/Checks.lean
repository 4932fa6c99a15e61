import ContactCard.Settings
import ContactCard.Proofs.Description.Faults

/-!
# The checks that settings go through

Settings are read from a mapping key by key, in a fixed order.  Each reading either finds what
the mapping gives for its key, or the default where the key is missing, or it ends the whole with
a fault that names the key.  So a mapping whose checks all pass gives just one choice of settings,
and of any other mapping the first check that fails is reported.
-/

namespace ContactCard

/-! ## What a value stands for -/

theorem Version.ofNumber?_eq_some_iff {s : String} {version : Version} :
    ofNumber? s = some version ↔ s = version.number := by
  constructor
  · intro hfind
    have hnumber := List.find?_some hfind
    exact (beq_iff_eq.1 hnumber).symm
  · rintro rfl
    cases version <;> decide

theorem Mode.ofName?_eq_some_iff {s : String} {mode : Mode} :
    ofName? s = some mode ↔ s = mode.name := by
  constructor
  · intro hfind
    have hname := List.find?_some hfind
    exact (beq_iff_eq.1 hname).symm
  · rintro rfl
    cases mode <;> decide

namespace Settings

/-- A value whose spelling, without the blanks around it, is the number of a version. -/
def NamesVersion (v : Value) (version : Version) : Prop :=
  v.isSpelled = true ∧ Text.strip v.spell = version.number

/-- A value whose spelling, without the blanks around it and in lower case, names a mode. -/
def NamesMode (v : Value) (mode : Mode) : Prop :=
  v.isSpelled = true ∧ Text.lower (Text.strip v.spell) = mode.name

/-- An integer, or `null` for no indentation. -/
def IsIndent (v : Value) (indent : Option Int) : Prop := v = indent.elim .null .int

def IsTruth (v : Value) (b : Bool) : Prop := v = .bool b

/-- A text stands for its path in plain form. -/
def IsPath (v : Value) (path : String) : Prop :=
  (∃ s, v = .text s ∧ path = Path.plain s) ∨ v = .scalar (.path path)

theorem ofValue_eq_ok_iff_namesVersion {v : Value} {version : Version} :
    Version.ofValue v = .ok version ↔ NamesVersion v version := by
  rw [Version.ofValue, NamesVersion, Value.spelled?, ← Version.ofNumber?_eq_some_iff]
  by_cases hv : v.isSpelled = true
  · rw [if_pos hv, Option.bind_some]
    cases Version.ofNumber? (Text.strip v.spell) <;> simp [hv]
  · simp [hv]

theorem ofValue_eq_ok_iff_namesMode {v : Value} {mode : Mode} :
    Mode.ofValue v = .ok mode ↔ NamesMode v mode := by
  rw [Mode.ofValue, NamesMode, Value.spelled?, ← Mode.ofName?_eq_some_iff]
  by_cases hv : v.isSpelled = true
  · rw [if_pos hv, Option.bind_some]
    cases Mode.ofName? (Text.lower (Text.strip v.spell)) <;> simp [hv]
  · simp [hv]

/-! ## Readings -/

section Readings

variable {α : Type}

/-- What a mapping gives for a key: what the value under it stands for, or the default where
there is none. -/
def IsGiven (m : Keyed Scalar Value) (key : String) (default : α) (stands : Value → α → Prop)
    (a : α) : Prop :=
  (given m key).elim (a = default) fun v => stands v a

theorem exists_isGiven_iff {m : Keyed Scalar Value} {key : String} {default : α}
    {stands : Value → α → Prop} :
    (∃ a, IsGiven m key default stands a) ↔ ∀ v, given m key = some v → ∃ a, stands v a := by
  simp only [IsGiven]
  cases given m key with
  | none => simp
  | some v => simp

/-- A reading that finds what meets a condition, or else ends with a fault that names a key. -/
structure Reads (x : Except SettingsFault α) (P : α → Prop) (key : String) : Prop where
  ok_iff : ∀ a, x = .ok a ↔ P a
  key? : ∀ fault, x = .error fault → fault.key? = some key

section Steps

variable {β : Type} {x : Except SettingsFault α} {P : α → Prop} {key : String}
  {f : SettingsFault → SettingsError} {next : α → Except SettingsError β}

theorem Reads.bind_eq_ok_iff (hx : Reads x P key) {b : β} :
    (x.mapError f >>= next) = .ok b ↔ ∃ a, P a ∧ next a = .ok b := by
  simp only [bind_eq_ok, mapError_eq_ok, hx.ok_iff]

theorem Reads.bind_of (hx : Reads x P key) {a : α} (ha : P a) :
    (x.mapError f >>= next) = next a := by
  rw [(hx.ok_iff a).2 ha]
  rfl

theorem Reads.exists_bind_eq_error (hx : Reads x P key) (hnone : ¬∃ a, P a) :
    ∃ fault, (x.mapError f >>= next) = .error (f fault) ∧ fault.key? = some key := by
  cases hcase : x with
  | ok a => exact absurd ⟨a, (hx.ok_iff a).1 hcase⟩ hnone
  | error fault => exact ⟨fault, rfl, hx.key? fault hcase⟩

/-- A fault that is reported behind a reading that finds something. -/
theorem Reads.exists_error_behind (hx : Reads x P key) (hsome : ∃ a, P a) {name : Option String}
    (hnext : ∀ a, ∃ fault, next a = .error (f fault) ∧ fault.key? = name) :
    ∃ fault, (x.mapError f >>= next) = .error (f fault) ∧ fault.key? = name := by
  obtain ⟨a, ha⟩ := hsome
  rw [hx.bind_of ha]
  exact hnext a

end Steps

theorem reads_of_given {m : Keyed Scalar Value} {key : String} {default : α}
    {stands : Value → α → Prop} {x : Except SettingsFault α}
    (read : Value → Except SettingsFault α) (hx : x = (given m key).elim (.ok default) read)
    (hok : ∀ v a, read v = .ok a ↔ stands v a)
    (hkey : ∀ v fault, read v = .error fault → fault.key? = some key) :
    Reads x (IsGiven m key default stands) key := by
  rw [hx]
  constructor
  · intro a
    rw [IsGiven]
    cases given m key with
    | none => simp [eq_comm]
    | some v => exact hok v a
  · intro fault hfault
    cases hgiven : given m key with
    | none =>
        rw [hgiven] at hfault
        cases hfault
    | some v =>
        rw [hgiven] at hfault
        exact hkey v fault hfault

end Readings

/-- What a value under the key of the indentation is read as. -/
def indentOf : Value → Except SettingsFault (Option Int)
  | .null => .ok none
  | .int n => .ok (some n)
  | _ => .error .jsonIndent

/-- What a value under the key of a truth value is read as. -/
def truthOf (key : String) : Value → Except SettingsFault Bool
  | .bool b => .ok b
  | _ => .error (.notBool key)

theorem indentOf_eq_ok_iff {v : Value} {indent : Option Int} :
    indentOf v = .ok indent ↔ IsIndent v indent := by
  fun_cases indentOf v with
  | case1 => cases indent <;> simp [IsIndent]
  | case2 n => cases indent <;> simp [IsIndent]
  | case3 v hnull hint =>
      refine iff_of_false nofun ?_
      cases indent with
      | none => exact hnull
      | some n => exact hint n

theorem truthOf_eq_ok_iff {key : String} {v : Value} {b : Bool} :
    truthOf key v = .ok b ↔ IsTruth v b := by
  fun_cases truthOf key v with
  | case1 given => simp [IsTruth]
  | case2 v hbool => exact iff_of_false nofun (hbool b)

section

variable (m : Keyed Scalar Value)

theorem reads_readVersion :
    Reads (readVersion m) (IsGiven m "target_version" .v40 NamesVersion) "target_version" := by
  refine reads_of_given (fun v => (Version.ofValue v).mapError .version) ?_ ?_ ?_
  · rw [readVersion]
    cases given m "target_version" <;> rfl
  · exact fun v version => mapError_eq_ok.trans ofValue_eq_ok_iff_namesVersion
  · intro v fault hfault
    obtain ⟨e, -, rfl⟩ := mapError_eq_error.1 hfault
    rfl

theorem reads_readMode :
    Reads (readMode m) (IsGiven m "compatibility_mode" .rfc NamesMode) "compatibility_mode" := by
  refine reads_of_given (fun v => (Mode.ofValue v).mapError .mode) ?_ ?_ ?_
  · rw [readMode]
    cases given m "compatibility_mode" <;> rfl
  · exact fun v mode => mapError_eq_ok.trans ofValue_eq_ok_iff_namesMode
  · intro v fault hfault
    obtain ⟨e, -, rfl⟩ := mapError_eq_error.1 hfault
    rfl

theorem reads_readJsonIndent :
    Reads (readJsonIndent m) (IsGiven m "json_indent" none IsIndent) "json_indent" := by
  refine reads_of_given indentOf ?_ (fun _ _ => indentOf_eq_ok_iff) ?_
  · fun_cases readJsonIndent m with
    | case1 hgiven => rw [hgiven]; rfl
    | case2 hgiven => rw [hgiven]; rfl
    | case3 n hgiven => rw [hgiven]; rfl
    | case4 v hnull hint hgiven =>
        rw [hgiven, Option.elim_some, indentOf.eq_3 v hnull hint]
  · intro v fault hfault
    fun_cases indentOf v with
    | case1 => cases hfault
    | case2 n => cases hfault
    | case3 v hnull hint =>
        rw [indentOf.eq_3 v hnull hint] at hfault
        cases hfault
        rfl

theorem reads_readBool (key : String) (default : Bool) :
    Reads (readBool m key default) (IsGiven m key default IsTruth) key := by
  refine reads_of_given (truthOf key) ?_ (fun _ _ => truthOf_eq_ok_iff) ?_
  · fun_cases readBool m key default with
    | case1 hgiven => rw [hgiven]; rfl
    | case2 b hgiven => rw [hgiven]; rfl
    | case3 v hbool hgiven => rw [hgiven, Option.elim_some, truthOf.eq_2 key v hbool]
  · intro v fault hfault
    fun_cases truthOf key v with
    | case1 b => cases hfault
    | case2 v hbool =>
        rw [truthOf.eq_2 key v hbool] at hfault
        cases hfault
        rfl

theorem readLogDir?_eq_some_iff {path : String} :
    readLogDir? m = some path ↔ IsGiven m "log_dir" "outs/logs" IsPath path := by
  rw [IsGiven]
  fun_cases readLogDir? m with
  | case1 hgiven => simp [hgiven, eq_comm]
  | case2 s hgiven => simp [hgiven, IsPath, eq_comm]
  | case3 s hgiven => simp [hgiven, IsPath]
  | case4 v htext hpath hgiven =>
      rw [hgiven, Option.elim_some]
      refine iff_of_false nofun ?_
      rintro (⟨s, rfl, -⟩ | rfl)
      · exact htext s rfl
      · exact hpath path rfl

end

/-! ## Checks -/

/-- The checks that settings go through. -/
inductive Check
  | known
  | version
  | mode
  | jsonIndent
  | addGenerator
  | xmlIndent
  deriving DecidableEq

namespace Check

/-- The checks in their order. -/
def all : List Check := [.known, .version, .mode, .jsonIndent, .addGenerator, .xmlIndent]

/-- The key that is reported when a check fails, none for keys that are not known. -/
def key? : Check → Option String
  | .known => none
  | .version => some "target_version"
  | .mode => some "compatibility_mode"
  | .jsonIndent => some "json_indent"
  | .addGenerator => some "add_generator"
  | .xmlIndent => some "xml_indent"

def Passes (m : Keyed Scalar Value) : Check → Prop
  | .known => ∀ key ∈ m.keys, ∃ word ∈ SettingsFault.knownKeys, key = .text word
  | .version => ∃ version, IsGiven m "target_version" .v40 NamesVersion version
  | .mode => ∃ mode, IsGiven m "compatibility_mode" .rfc NamesMode mode
  | .jsonIndent => ∃ indent, IsGiven m "json_indent" none IsIndent indent
  | .addGenerator => ∃ b, IsGiven m "add_generator" true IsTruth b
  | .xmlIndent => ∃ b, IsGiven m "xml_indent" false IsTruth b

/-- A check that fails where all checks before it pass. -/
structure FailsFirst (m : Keyed Scalar Value) (check : Check) : Prop where
  fails : ¬check.Passes m
  earlier : ∀ other ∈ all.takeWhile (· ≠ check), other.Passes m

theorem mem_all (check : Check) : check ∈ all := by cases check <;> decide

theorem exists_failsFirst {m : Keyed Scalar Value} (hm : ¬∀ check : Check, check.Passes m) :
    ∃ check : Check, check.FailsFirst m := by
  classical
  obtain ⟨failing, hfailing⟩ := not_forall.1 hm
  obtain ⟨first, hfirst⟩ : ∃ first, all.find? (fun check => ¬check.Passes m) = some first := by
    rw [← Option.isSome_iff_exists, List.find?_isSome]
    exact ⟨failing, mem_all failing, decide_eq_true hfailing⟩
  obtain ⟨hfails, before, after, hall, hbefore⟩ := List.find?_eq_some_iff_append.1 hfirst
  have hpass : ∀ other ∈ before, other.Passes m := by
    intro other hother
    simpa using hbefore other hother
  refine ⟨first, of_decide_eq_true hfails, fun other hother => hpass other ?_⟩
  have hne : ∀ other ∈ before, decide (other ≠ first) = true := by
    intro other hother
    exact decide_eq_true fun h => of_decide_eq_true hfails (h ▸ hpass other hother)
  rw [hall, List.takeWhile_append_of_pos hne, List.takeWhile_cons_of_neg (by simp)] at hother
  simpa using hother

end Check

/-- Settings that are what a mapping gives for each key. -/
structure IsGivenBy (s : Settings) (m : Keyed Scalar Value) : Prop where
  version : IsGiven m "target_version" .v40 NamesVersion s.version
  mode : IsGiven m "compatibility_mode" .rfc NamesMode s.mode
  jsonIndent : IsGiven m "json_indent" none IsIndent s.jsonIndent
  addGenerator : IsGiven m "add_generator" true IsTruth s.addGenerator
  xmlIndent : IsGiven m "xml_indent" false IsTruth s.xmlIndent
  logDir : IsGiven m "log_dir" "outs/logs" IsPath s.logDir

/-! ## Settings of a mapping -/

/-- The settings under the known keys. -/
def readKnown (path : String) (m : Keyed Scalar Value) : Except SettingsError Settings := do
  let fault (e : SettingsFault) : SettingsError := .invalid e path
  let version ← (readVersion m).mapError fault
  let mode ← (readMode m).mapError fault
  let jsonIndent ← (readJsonIndent m).mapError fault
  let addGenerator ← (readBool m "add_generator" true).mapError fault
  let xmlIndent ← (readBool m "xml_indent" false).mapError fault
  match readLogDir? m with
  | none => throw .notPath
  | some logDir => return { version, mode, addGenerator, xmlIndent, jsonIndent, logDir }

/-- How loading ends over keys that are not known. -/
def unknownError (path : String) (keys : List Scalar) : SettingsError :=
  match Scalar.sorted? keys with
  | none => .mixedKeys
  | some keys =>
    if keys.all Scalar.isSpelled then .invalid (.unknownKeys keys) path else .longInteger

theorem mem_sorted? {keys sorted : List Scalar} (hsorted : Scalar.sorted? keys = some sorted)
    {key : Scalar} (hkey : key ∈ keys) : key ∈ sorted := by
  rw [Scalar.sorted?] at hsorted
  split at hsorted
  · cases hsorted
    exact List.mem_mergeSort.2 hkey
  · cases hsorted

section

variable {path : String} {keys : List Scalar}

theorem unknownError_of_areMixed (hkeys : Description.AreMixed keys) :
    unknownError path keys = .mixedKeys := by
  rw [unknownError, (Description.sorted?_eq_none_iff keys).2 hkeys]

theorem unknownError_of_spelled (hkeys : ¬Description.AreMixed keys)
    (hspelled : ∀ key ∈ keys, key.isSpelled = true) :
    ∃ sorted, unknownError path keys = .invalid (.unknownKeys sorted) path := by
  rw [unknownError]
  cases hsorted : Scalar.sorted? keys with
  | none => exact absurd ((Description.sorted?_eq_none_iff keys).1 hsorted) hkeys
  | some sorted =>
      have hall : sorted.all Scalar.isSpelled = true := by
        rw [List.all_eq_true]
        exact fun key hkey => hspelled key (Description.mem_of_mem_sorted? hsorted hkey)
      exact ⟨sorted, if_pos hall⟩

theorem unknownError_of_not_spelled (hkeys : ¬Description.AreMixed keys)
    (hspelled : ¬∀ key ∈ keys, key.isSpelled = true) :
    unknownError path keys = .longInteger := by
  rw [unknownError]
  cases hsorted : Scalar.sorted? keys with
  | none => exact absurd ((Description.sorted?_eq_none_iff keys).1 hsorted) hkeys
  | some sorted =>
      have hall : ¬sorted.all Scalar.isSpelled = true := by
        rw [List.all_eq_true]
        exact fun h => hspelled fun key hkey => h key (mem_sorted? hsorted hkey)
      exact if_neg hall

end

theorem isKnown_iff {key : Scalar} :
    isKnown key = true ↔ ∃ word ∈ SettingsFault.knownKeys, key = .text word := by
  simp [isKnown, List.any_eq_true]

theorem unknownKeys_eq_nil_iff {m : Keyed Scalar Value} :
    unknownKeys m = [] ↔ Check.known.Passes m := by
  simp only [unknownKeys, List.filter_eq_nil_iff, Bool.not_eq_true', Bool.not_eq_false,
    isKnown_iff, Check.Passes]

theorem ofEntries_of_known {path : String} {m : Keyed Scalar Value}
    (hm : Check.known.Passes m) : ofEntries path m = readKnown path m := by
  rw [ofEntries, unknownKeys_eq_nil_iff.2 hm]
  rfl

theorem ofEntries_of_not_known {path : String} {m : Keyed Scalar Value}
    (hm : ¬Check.known.Passes m) :
    ofEntries path m = .error (unknownError path (unknownKeys m)) := by
  rw [ofEntries, unknownError]
  cases hunknown : unknownKeys m with
  | nil => exact absurd (unknownKeys_eq_nil_iff.1 hunknown) hm
  | cons key rest =>
      dsimp only
      cases Scalar.sorted? (key :: rest) <;> rfl

theorem readKnown_eq_ok_iff {path : String} {m : Keyed Scalar Value} {s : Settings} :
    readKnown path m = .ok s ↔ s.IsGivenBy m := by
  have hlast : ∀ (made : String → Settings),
      (match readLogDir? m with
        | none => throw .notPath
        | some logDir => pure (made logDir) : Except SettingsError Settings) = .ok s ↔
      ∃ logDir, IsGiven m "log_dir" "outs/logs" IsPath logDir ∧ made logDir = s := by
    intro made
    simp only [← readLogDir?_eq_some_iff]
    cases readLogDir? m with
    | none => exact iff_of_false nofun nofun
    | some logDir => simp [pure, Except.pure]
  simp only [readKnown, (reads_readVersion m).bind_eq_ok_iff, (reads_readMode m).bind_eq_ok_iff,
    (reads_readJsonIndent m).bind_eq_ok_iff, (reads_readBool m _ _).bind_eq_ok_iff, hlast]
  constructor
  · rintro ⟨_, hversion, _, hmode, _, hindent, _, hgenerator, _, hxml, _, hlog, rfl⟩
    exact ⟨hversion, hmode, hindent, hgenerator, hxml, hlog⟩
  · rintro ⟨hversion, hmode, hindent, hgenerator, hxml, hlog⟩
    exact ⟨_, hversion, _, hmode, _, hindent, _, hgenerator, _, hxml, _, hlog, rfl⟩

theorem IsGivenBy.passes {s : Settings} {m : Keyed Scalar Value} (hs : s.IsGivenBy m)
    (hm : Check.known.Passes m) (check : Check) : check.Passes m := by
  cases check with
  | known => exact hm
  | version => exact ⟨_, hs.version⟩
  | mode => exact ⟨_, hs.mode⟩
  | jsonIndent => exact ⟨_, hs.jsonIndent⟩
  | addGenerator => exact ⟨_, hs.addGenerator⟩
  | xmlIndent => exact ⟨_, hs.xmlIndent⟩

/-- A mapping whose checks pass gives settings, if it gives a path for the log. -/
theorem exists_isGivenBy {m : Keyed Scalar Value} (hm : ∀ check : Check, check.Passes m)
    (hpath : ∃ logDir, IsGiven m "log_dir" "outs/logs" IsPath logDir) :
    ∃ s : Settings, s.IsGivenBy m := by
  obtain ⟨version, hversion⟩ := hm .version
  obtain ⟨mode, hmode⟩ := hm .mode
  obtain ⟨indent, hindent⟩ := hm .jsonIndent
  obtain ⟨generator, hgenerator⟩ := hm .addGenerator
  obtain ⟨xml, hxml⟩ := hm .xmlIndent
  obtain ⟨logDir, hlogDir⟩ := hpath
  exact ⟨⟨version, mode, generator, xml, indent, logDir⟩,
    ⟨hversion, hmode, hindent, hgenerator, hxml, hlogDir⟩⟩

/-- Settings are read exactly where all checks pass, and they are what the mapping gives. -/
theorem ofEntries_eq_ok_iff {path : String} {m : Keyed Scalar Value} {s : Settings} :
    ofEntries path m = .ok s ↔ (∀ check : Check, check.Passes m) ∧ s.IsGivenBy m := by
  by_cases hm : Check.known.Passes m
  · rw [ofEntries_of_known hm, readKnown_eq_ok_iff]
    exact ⟨fun hs => ⟨hs.passes hm, hs⟩, And.right⟩
  · rw [ofEntries_of_not_known hm]
    exact iff_of_false nofun fun h => hm (h.1 .known)

/-- Where a check but the first one is the first to fail, its key is reported. -/
theorem ofEntries_of_failsFirst {path : String} {m : Keyed Scalar Value} {check : Check}
    (hcheck : check.FailsFirst m) (hne : check ≠ .known) :
    ∃ fault, ofEntries path m = .error (.invalid fault path) ∧ fault.key? = check.key? := by
  have hknown : Check.known.Passes m := by
    refine hcheck.earlier .known ?_
    cases check <;> first | exact absurd rfl hne | decide
  rw [ofEntries_of_known hknown, readKnown]
  cases check with
  | known => exact absurd rfl hne
  | version => exact (reads_readVersion m).exists_bind_eq_error hcheck.fails
  | mode =>
      refine (reads_readVersion m).exists_error_behind
        (hcheck.earlier .version (by decide)) fun _ => ?_
      exact (reads_readMode m).exists_bind_eq_error hcheck.fails
  | jsonIndent =>
      refine (reads_readVersion m).exists_error_behind
        (hcheck.earlier .version (by decide)) fun _ => ?_
      refine (reads_readMode m).exists_error_behind
        (hcheck.earlier .mode (by decide)) fun _ => ?_
      exact (reads_readJsonIndent m).exists_bind_eq_error hcheck.fails
  | addGenerator =>
      refine (reads_readVersion m).exists_error_behind
        (hcheck.earlier .version (by decide)) fun _ => ?_
      refine (reads_readMode m).exists_error_behind
        (hcheck.earlier .mode (by decide)) fun _ => ?_
      refine (reads_readJsonIndent m).exists_error_behind
        (hcheck.earlier .jsonIndent (by decide)) fun _ => ?_
      exact (reads_readBool m _ _).exists_bind_eq_error hcheck.fails
  | xmlIndent =>
      refine (reads_readVersion m).exists_error_behind
        (hcheck.earlier .version (by decide)) fun _ => ?_
      refine (reads_readMode m).exists_error_behind
        (hcheck.earlier .mode (by decide)) fun _ => ?_
      refine (reads_readJsonIndent m).exists_error_behind
        (hcheck.earlier .jsonIndent (by decide)) fun _ => ?_
      refine (reads_readBool m _ _).exists_error_behind
        (hcheck.earlier .addGenerator (by decide)) fun _ => ?_
      exact (reads_readBool m _ _).exists_bind_eq_error hcheck.fails

theorem ofEntries_of_no_path {path : String} {m : Keyed Scalar Value}
    (hm : ∀ check : Check, check.Passes m)
    (hpath : ¬∃ logDir, IsGiven m "log_dir" "outs/logs" IsPath logDir) :
    ofEntries path m = .error .notPath := by
  have hnone : readLogDir? m = none := by
    rw [Option.eq_none_iff_forall_ne_some]
    exact fun logDir h => hpath ⟨logDir, (readLogDir?_eq_some_iff m).1 h⟩
  obtain ⟨version, hversion⟩ := hm .version
  obtain ⟨mode, hmode⟩ := hm .mode
  obtain ⟨indent, hindent⟩ := hm .jsonIndent
  obtain ⟨generator, hgenerator⟩ := hm .addGenerator
  obtain ⟨xml, hxml⟩ := hm .xmlIndent
  rw [ofEntries_of_known (hm .known), readKnown, (reads_readVersion m).bind_of hversion,
    (reads_readMode m).bind_of hmode, (reads_readJsonIndent m).bind_of hindent,
    (reads_readBool m _ _).bind_of hgenerator, (reads_readBool m _ _).bind_of hxml, hnone]
  rfl

end Settings

end ContactCard
