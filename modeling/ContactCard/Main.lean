import ContactCard.Session
import ContactCard.Session.Arguments

/-!
# The command line

Reads the files that the arguments name, runs the session, and puts its output,
its messages and its log where they belong. References in the files name nothing.
-/

namespace ContactCard.CommandLine

def usage : String :=
  "Usage: contact_card [xml|json|text] INPUT_FILE [-o OUTPUT] [-t TARGET_VERSION]\n"
    ++ "  [--no-generator] [-c CONFIG]\n"

def readDocument (path : String) : IO Value := do
  match Yaml.read (← IO.FS.readFile path) with
  | .ok document => return document
  | .error _ => throw (IO.userError ("no document can be read from " ++ path))

/-- The document in a file, if there is such a file. -/
def readDocument? (path : String) : IO (Option Value) := do
  let place := (← IO.currentDir) / path
  if !(← place.pathExists) || (← place.isDir) then return none
  some <$> readDocument path

/-- The directories among some paths. -/
def directoriesAmong (paths : List String) : IO (List String) := do
  let here ← IO.currentDir
  paths.filterM fun path => (here / path).isDir

/-- The present moment, which a new file is marked with. -/
def now : IO Moment := do
  let (_, path) ← IO.FS.createTempFile
  let time := (← path.metadata).modified
  IO.FS.removeFile path
  return { seconds := time.sec.toNat, micros := time.nsec.toNat / 1000 }

def invocation (command path : String) (arguments : Arguments) : IO Invocation := do
  let configPath := (arguments.config.map Path.plain).getD Settings.packagedPath
  let config ← match arguments.config with
    | none => pure (some Settings.packaged)
    | some _ => readDocument? configPath
  let inv : Invocation := {
    command := some command
    inputPath := Path.plain path
    input := ← readDocument? path
    configPath, config
    resolver := .barren
    targetVersion := arguments.targetVersion
    noGenerator := arguments.noGenerator
    output := arguments.output
    workingDirectory := toString (← IO.currentDir)
    moment := ← now }
  let directories ← directoriesAmong inv.places
  return { inv with hasDirectory := directories.contains }

def logLine (entry : LogEntry) : String :=
  entry.level.name ++ .ofList (List.replicate (7 - entry.level.name.length) ' ') ++ " | "
    ++ entry.message ++ "\n"

/-- Writes the log of a session, after making the directory for it. -/
def writeLog (directory path : String) (session : Session) : IO Unit := do
  IO.FS.createDirAll directory
  let place := (← IO.currentDir) / path
  match place.parent with
  | some parent => IO.FS.createDirAll parent
  | none => pure ()
  IO.FS.writeFile place (String.join (session.log.map logLine))

/-- Puts everything that a session leaves behind in its place. -/
def finish (inv : Invocation) (session : Session) : IO UInt32 := do
  match inv.logPlaces? with
  | some (directory, path) => unless session.log.isEmpty do writeLog directory path session
  | none => pure ()
  match inv.output, session.file with
  | some path, some written => IO.FS.writeFile path written
  | _, _ => pure ()
  IO.print session.stdout
  IO.eprint session.stderr
  match session.failure with
  | some failure => IO.eprintln failure.reason
  | none => pure ()
  return session.exitCode.toUInt32

def refuse : IO UInt32 := do
  IO.eprint usage
  return 2

def help : IO UInt32 := do
  IO.print usage
  return 0

def run (command : String) (words : List String) : IO UInt32 := do
  match Command.ofWord? command, Arguments.read? words with
  | none, _ | _, none => refuse
  | some _, some arguments =>
    if arguments.help then help
    else match arguments.paths with
      | [path] => do
        let inv ← invocation command path arguments
        let session := inv.run
        if session.exitCode = 2 then refuse else finish inv session
      | _ => refuse

end ContactCard.CommandLine

open ContactCard in
def main (words : List String) : IO UInt32 :=
  match Request.read? words with
  | none => CommandLine.refuse
  | some .help => CommandLine.help
  | some (.run command words) => CommandLine.run command words
