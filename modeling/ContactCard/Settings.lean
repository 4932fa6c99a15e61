import ContactCard.Message
import ContactCard.Mode
import ContactCard.Record
import ContactCard.Settings.Override
import ContactCard.Path
import ContactCard.Version
import ContactCard.Yaml.Root

/-!
# Settings

What a run is configured with. Settings come from a mapping with known keys,
after overrides are laid over it; a key that is missing has its default. The
values are checked key by key, and the first one that is wrong is reported.
-/

namespace ContactCard

structure Settings where
  version : Version := .v40
  mode : Mode := .rfc
  addGenerator : Bool := true
  xmlIndent : Bool := false
  jsonIndent : Option Int := none
  logDir : String := "outs/logs"
  deriving DecidableEq, Repr

def Settings.target (settings : Settings) : Target :=
  ⟨settings.version, settings.mode, settings.addGenerator⟩

inductive SettingsFault
  | unreadable
  | notMapping
  | unknownKeys (keys : List Scalar)
  | version (e : UnknownVersion)
  | mode (e : UnknownMode)
  | jsonIndent
  | notBool (key : String)

/-- Besides faults, which name the file, loading ends when the file is missing,
when its root is no mapping at all, when an override cannot be laid over it,
when unknown keys have no order or an unknown key is an integer that is too long,
and when the log directory is no text. -/
inductive SettingsError
  | missing (path : String)
  | invalid (fault : SettingsFault) (path : String)
  | badRoot (e : Yaml.RootError)
  | badOverride (e : Override.OverrideError)
  | mixedKeys
  | longInteger
  | notPath

namespace SettingsFault

/-- The keys that settings may have, in alphabetical order. -/
def knownKeys : List String :=
  ["add_generator", "compatibility_mode", "json_indent", "log_dir", "target_version", "xml_indent"]

def key? : SettingsFault → Option String
  | .unreadable | .notMapping | .unknownKeys _ => none
  | .version _ => some "target_version"
  | .mode _ => some "compatibility_mode"
  | .jsonIndent => some "json_indent"
  | .notBool key => some key

def summary : SettingsFault → String
  | .unreadable => "Could not read settings"
  | .notMapping => "Settings file must contain a mapping"
  | .unknownKeys keys =>
    "Unknown settings " ++ keysText keys ++ ". Known settings: " ++ wordsText knownKeys
  | .version e => e.message
  | .mode e => e.message
  | .jsonIndent => "json_indent must be an integer or null"
  | .notBool key => key ++ " must be true or false"

/-- A summary with notes on the key and the file. -/
def report (summary : String) (key path : Option String) : String :=
  withNotes summary [("Key", key.bind nonempty?), ("Config", path.bind nonempty?)]

def message (fault : SettingsFault) (path : String) : String :=
  report fault.summary fault.key? (some path)

end SettingsFault

def SettingsError.missingMessage (path : String) : String :=
  "Marshalling settings not found at " ++ path

namespace Settings

/-- What messages call the settings that come with the program. -/
def packagedPath : String := "<default>"

/-- The root of the settings that come with the program. -/
def packaged : Value :=
  .mapping [
    (.text "target_version", .text "4.0"),
    (.text "compatibility_mode", .text "rfc"),
    (.text "add_generator", .bool true),
    (.text "xml_indent", .bool false),
    (.text "json_indent", .null),
    (.text "log_dir", .text "outs/logs")]

/-- The value of a setting, if it is given. -/
def given (entries : Keyed Scalar Value) (key : String) : Option Value :=
  entries.lookup (.text key)

def isKnown (key : Scalar) : Bool := SettingsFault.knownKeys.any fun word => key == .text word

/-- The keys that are not known, in order. -/
def unknownKeys (entries : Keyed Scalar Value) : List Scalar :=
  entries.keys.filter fun key => !isKnown key

def readVersion (entries : Keyed Scalar Value) : Except SettingsFault Version :=
  match given entries "target_version" with
  | none => .ok .v40
  | some v => (Version.ofValue v).mapError SettingsFault.version

def readMode (entries : Keyed Scalar Value) : Except SettingsFault Mode :=
  match given entries "compatibility_mode" with
  | none => .ok .rfc
  | some v => (Mode.ofValue v).mapError SettingsFault.mode

def readJsonIndent (entries : Keyed Scalar Value) : Except SettingsFault (Option Int) :=
  match given entries "json_indent" with
  | none | some .null => .ok none
  | some (.int n) => .ok (some n)
  | some _ => .error .jsonIndent

def readBool (entries : Keyed Scalar Value) (key : String) (default : Bool) :
    Except SettingsFault Bool :=
  match given entries key with
  | none => .ok default
  | some (.bool b) => .ok b
  | some _ => .error (.notBool key)

def readLogDir? (entries : Keyed Scalar Value) : Option String :=
  match given entries "log_dir" with
  | none => some "outs/logs"
  | some (.text s) => some (Path.plain s)
  | some (.scalar (.path s)) => some s
  | some _ => none

/-- The settings that a mapping holds, checked in a fixed order. -/
def ofEntries (path : String) (entries : Keyed Scalar Value) : Except SettingsError Settings := do
  let fault (e : SettingsFault) : SettingsError := .invalid e path
  match unknownKeys entries with
  | [] => pure ()
  | unknown =>
    match Scalar.sorted? unknown with
    | some keys =>
      throw (if keys.all Scalar.isSpelled then fault (.unknownKeys keys) else .longInteger)
    | none => throw .mixedKeys
  let version ← (readVersion entries).mapError fault
  let mode ← (readMode entries).mapError fault
  let jsonIndent ← (readJsonIndent entries).mapError fault
  let addGenerator ← (readBool entries "add_generator" true).mapError fault
  let xmlIndent ← (readBool entries "xml_indent" false).mapError fault
  match readLogDir? entries with
  | none => throw .notPath
  | some logDir => return { version, mode, addGenerator, xmlIndent, jsonIndent, logDir }

/-- The root of a settings file with overrides laid over it, in which references are
resolved at the end. -/
def layered (r : Yaml.Resolver) (path : String) (root : Value) (overrides : List String) :
    Except SettingsError Value := do
  let unreadable : SettingsError := .invalid .unreadable path
  let base ← (Yaml.root root).mapError fun e =>
    match e with
    | .badKeys | .unresolved | .unreadable .badKey | .unreadable (.unsupported _) => unreadable
    | e => .badRoot e
  let laid ←
    if overrides.isEmpty then pure base
    else do
      let upper ← (Override.collect overrides).mapError fun e =>
        match e with
        | .clash | .noItem | .unreadable .badKey | .unreadable (.unsupported _) => unreadable
        | e => .badOverride e
      if Yaml.hasBadKeys upper then throw unreadable
      match Override.overlay base upper with
      | some v => pure v
      | none => throw (.badOverride .clash)
  if Yaml.hasBadKeys laid then throw unreadable
  (r.resolved laid).mapError fun _ => unreadable

/-- The settings of a file with the given root, under overrides. -/
def load (r : Yaml.Resolver) (path : String) (root : Value) (overrides : List String) :
    Except SettingsError Settings := do
  match ← layered r path root overrides with
  | .mapping entries => ofEntries path entries
  | _ => throw (.invalid .notMapping path)

end Settings

end ContactCard
