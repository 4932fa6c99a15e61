import ContactCard.Description.Card
import ContactCard.JCard
import ContactCard.PlainText
import ContactCard.Session.Files
import ContactCard.Session.Template
import ContactCard.Session.Terminal
import ContactCard.Settings
import ContactCard.XCard

/-!
# Sessions

One run of the command line: settings are loaded, a session log begins, the
cards are loaded and written one after another, and the document goes to the
standard output or to a file. What the user has to know goes to the standard
error, and everything to the log.
-/

namespace ContactCard

inductive Command
  | xml
  | json
  | text
  deriving DecidableEq, Repr

namespace Command

def word : Command → String
  | .xml => "xml"
  | .json => "json"
  | .text => "text"

def ofWord? (s : String) : Option Command :=
  [Command.xml, .json, .text].find? fun command => command.word == s

/-- The name of the written format. -/
def formatName : Command → String
  | .xml => XCard.format.name
  | .json => JCard.format.name
  | .text => PlainText.formatName

end Command

/-- What a run is given: its arguments, the roots of the files they name as far
as these exist, the resolver of the references in them, which directories there
are, the path of the working directory among them, and the moment at which the run
begins. -/
structure Invocation where
  command : Option String
  inputPath : String
  input : Option Value
  configPath : String
  config : Option Value
  resolver : Yaml.Resolver
  targetVersion : Option String := none
  noGenerator : Bool := false
  output : Option String := none
  hasDirectory : String → Bool := fun _ => false
  workingDirectory : String := "/"
  moment : Moment

/-- How a run can break off without a message of its own. -/
inductive Failure
  | settings (e : SettingsError)
  | description (e : DescriptionError)
  | root (e : Yaml.RootError)
  | group (e : BadGroup)
  | json (e : Json.WriteError)
  | path (e : PathError)
  | logPath (e : Template.TemplateError)

def Failure.reason : Failure → String
  | .settings _ => "The settings hold a value that cannot be used"
  | .description _ => "The cards hold a value that cannot be used"
  | .root _ => "The input holds no cards"
  | .group _ => "The group of a property is no text"
  | .json .formless | .json .longInteger => "The group of a property has no JSON form"
  | .json _ => "The indentation is too deep"
  | .path .missing => "The directory of the output does not exist"
  | .path .notDirectory | .path .isTaken => "A file stands where a directory should be"
  | .path .isDirectory => "The output is a directory"
  | .path .tooLong | .path .holdsNul => "A path is too long or holds a NUL"
  | .logPath _ => "The path of the log is no template"

/-- What a run leaves behind. -/
structure Session where
  exitCode : Nat := 0
  log : List LogEntry := []
  stdout : String := ""
  stderr : String := ""
  file : Option String := none
  failure : Option Failure := none

namespace Session

def usageError : Session := { exitCode := 2 }

def say (s : Session) (entries : List LogEntry) : Session := { s with log := s.log ++ entries }

/-- A line for the user. -/
def tell (s : Session) (message : String) : Session :=
  { s with stderr := s.stderr ++ Terminal.plain message ++ "\n" }

/-- Ends a run with a message to the user. -/
def refuse (s : Session) (message : String) : Session :=
  { s.tell ("Error: " ++ message) with exitCode := 1 }

def breakOff (s : Session) (failure : Failure) : Session :=
  { s with exitCode := 1, failure := some failure }

def rule : LogEntry := ⟨.info, .ofList (List.replicate 80 '=')⟩

/-- The head of a session log. -/
def opening (command : Command) (version : Version) : List LogEntry :=
  [rule, ⟨.info, "Format: " ++ command.word⟩, ⟨.info, "Target version: " ++ version.number⟩, rule]

/-- Tells the warnings of the `number`-th card. -/
def report (s : Session) (number : Nat) (warnings : List String) : Session :=
  warnings.foldl
    (fun s warning => s.tell ("  vCard #" ++ toString number ++ ": " ++ warning)) s

/-- Records cards until one fails. -/
def addAll {σ α : Type} (recorder : Recorder σ α) (s : Session) (d : σ) :
    List Card → Session × Option σ
  | [] => (s, some d)
  | card :: rest =>
    match recorder.add card d with
    | .error e _ => ((s.say e.log).breakOff (.group e), none)
    | .ok record d =>
      addAll recorder ((s.say record.log).report (recorder.size d) record.warnings) d rest

end Session

namespace Invocation

def overrides (inv : Invocation) : List String :=
  (match inv.targetVersion.bind nonempty? with
    | some s => ["target_version='" ++ s ++ "'"]
    | none => [])
    ++ (if inv.noGenerator then ["add_generator=false"] else [])

def settings (inv : Invocation) : Except SettingsError Settings :=
  match inv.config with
  | none => .error (.missing inv.configPath)
  | some root => Settings.load inv.resolver inv.configPath root inv.overrides

/-- The files that a run reads. -/
def files (inv : Invocation) : Files where
  files := .ofPath inv.inputPath ::
    (if inv.config.isSome && inv.configPath != Settings.packagedPath then
      [.ofPath inv.configPath] else [])
  hasDirectory := inv.hasDirectory

/-- The directory of the log of this run, named for the command and the moment. -/
def logDirectory (inv : Invocation) (command : Command) (logDir : String) : String :=
  Path.join logDir (command.word ++ "_" ++ inv.moment.compact)

def logName : String := "marshal.log"

/-- The path of the log, with its fields filled in. -/
def logPath (inv : Invocation) (command : Command) (logDir : String) :
    Except Failure String :=
  (Template.expand inv.moment (Path.join (inv.logDirectory command logDir) logName)).mapError
    Failure.logPath

/-- The directory that is made for the log of this run and the path of the log, if
it has one. -/
def logPlaces? (inv : Invocation) : Option (String × String) := do
  let command ← inv.command.bind Command.ofWord?
  let settings ← inv.settings.toOption
  let path ← (inv.logPath command settings.logDir).toOption
  return (inv.logDirectory command settings.logDir, path)

/-- The places along the paths of the output and the log. -/
def places (inv : Invocation) : List String :=
  let logPlaces := inv.logPlaces?.elim [] fun (directory, path) => [directory, path]
  (inv.output.toList ++ logPlaces).flatMap fun path => (Location.along path).map Location.path

/-- The size of a path from the root on. -/
def fullSize (inv : Invocation) (path : String) : Nat :=
  let full := if Path.lead path.toList = [] then Path.join inv.workingDirectory path else path
  (Location.ofPath full).path.utf8ByteSize

/-- Makes the directory of the log. Where its path holds fields, the log itself
lies in a directory that has them filled in. -/
def makeLog (inv : Invocation) (command : Command) (logDir : String) : Except Failure Files := do
  let made ← (inv.files.makeDirectory (inv.logDirectory command logDir)).mapError Failure.path
  let path ← inv.logPath command logDir
  let directory := { Location.ofPath path with names := (Location.ofPath path).names.dropLast }
  let made ← (made.makeDirectory directory.path).mapError Failure.path
  if Files.maxPath < inv.fullSize path then throw (.path .tooLong) else return made

/-- Why the output cannot be opened, if so. -/
def outputFailure? (inv : Invocation) (files : Files) : Option Failure :=
  inv.output.bind fun path => (files.writeError? (Path.plain path)).map Failure.path

def destination (inv : Invocation) : String := (inv.output.map Path.plain).getD "stdout"

/-- Delivers the written text and closes the log. -/
def deliver (inv : Invocation) (command : Command) (s : Session) (count : Nat) (text : String) :
    Session :=
  let s := s.say [.marshal .success ("Wrote " ++ toString count ++ " vCard(s) as "
    ++ command.formatName ++ " to " ++ inv.destination)]
  match inv.output with
  | none => { s with stdout := text }
  | some _ => { s with file := some text }

/-- Writes the cards as a document that is serialized at the end. -/
def runDocument {α : Type} (inv : Invocation) (command : Command) (settings : Settings)
    (format : Format α) (write : Document α → Except Failure String) (files : Files) (s : Session)
    (cards : List Card) : Session :=
  match Session.addAll format.recorder s { target := settings.target } cards with
  | (s, none) => s
  | (s, some d) =>
    match inv.outputFailure? files with
    | some failure => s.breakOff failure
    | none =>
      match write d with
      | .error failure => s.breakOff failure
      | .ok text => inv.deliver command (s.say (d.serializedLog format)) d.size (text ++ "\n")

/-- Writes the cards as plain text, each as soon as it is ready. -/
def runText (inv : Invocation) (settings : Settings) (files : Files) (s : Session)
    (cards : List Card) : Session :=
  match inv.outputFailure? files with
  | some failure => s.breakOff failure
  | none =>
    match Session.addAll PlainText.recorder s { target := settings.target } cards with
    | (s, none) => s
    | (s, some w) => inv.deliver .text s w.count w.stream

/-- The xCard text of a document. -/
def xmlText (settings : Settings) (d : Document Element) : Except Failure String :=
  (XCard.write settings.xmlIndent d).mapError Failure.group

/-- The jCard text of a document. -/
def jsonText (settings : Settings) (d : Document (List JCard.Entry)) : Except Failure String :=
  (JCard.writeChecked settings.jsonIndent d).mapError Failure.json

def write (inv : Invocation) (command : Command) (settings : Settings) (files : Files)
    (s : Session) (cards : List Card) : Session :=
  match command with
  | .xml => inv.runDocument .xml settings XCard.format (xmlText settings) files s cards
  | .json => inv.runDocument .json settings JCard.format (jsonText settings) files s cards
  | .text => inv.runText settings files s cards

def loadFailed (inv : Invocation) (s : Session) (reason : String) : Session :=
  (s.say [.marshal .error ("Could not load " ++ inv.inputPath ++ ": " ++ reason)]).refuse
    ("could not load " ++ inv.inputPath ++ ": " ++ reason)

/-- The cards in the input, or the session that ends without them. -/
def load (inv : Invocation) (s : Session) (input : Value) : Except Session (List Card) :=
  match Yaml.root input >>= inv.resolver.resolved with
  | .error (.scalarRoot given) =>
    .error (inv.loadFailed s ("Invalid loaded object type: " ++ given.kindName))
  | .error e => .error (s.breakOff (.root e))
  | .ok root =>
    match Card.ofDocument inv.inputPath root with
    | .error (.invalid fault) => .error (inv.loadFailed s fault.message)
    | .error e => .error (s.breakOff (.description e))
    | .ok cards => .ok cards

/-- A run of a known command on a file that exists. -/
def runCommand (inv : Invocation) (command : Command) (input : Value) : Session :=
  match inv.settings with
  | .error (.invalid fault path) => ({} : Session).refuse (fault.message path)
  | .error (.missing path) => ({} : Session).refuse (SettingsError.missingMessage path)
  | .error e => ({} : Session).breakOff (.settings e)
  | .ok settings =>
    match inv.makeLog command settings.logDir with
    | .error failure => ({} : Session).breakOff failure
    | .ok files =>
      let s := ({} : Session).say (Session.opening command settings.version)
      match inv.load s input with
      | .error s => s
      | .ok cards =>
        let loaded := "Loaded " ++ toString cards.length ++ " vCard(s) from " ++ inv.inputPath
        inv.write command settings files (s.say [.marshal .info loaded]) cards

/-- Whether the path of the output is none at all. -/
def hasBadOutput (inv : Invocation) : Bool :=
  inv.output.any fun path => path.toList.contains '\x00'

/-- A run. Without a command there is only help to show. -/
def run (inv : Invocation) : Session :=
  match inv.command with
  | none => {}
  | some word =>
    match Command.ofWord? word, inv.input with
    | some command, some input =>
      if inv.hasBadOutput then .usageError else inv.runCommand command input
    | _, _ => .usageError

end Invocation

end ContactCard
