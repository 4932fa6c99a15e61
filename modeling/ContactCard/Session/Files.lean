import ContactCard.Path

/-!
# Files and directories

What a run finds on its way along a path, and what it makes there. A path is
followed part by part; every part on the way must be a directory.
-/

namespace ContactCard

/-- A place below the root, or one that is reached from the working directory by
going up and then down. -/
structure Location where
  isRooted : Bool := false
  ups : Nat := 0
  names : List (List Char) := []
  deriving DecidableEq, Repr

namespace Location

/-- Where a path begins. -/
def start (path : String) : Location := { isRooted := !(Path.lead path.toList).isEmpty }

/-- One directory up; there is nothing above the root. -/
def up (l : Location) : Location :=
  if !l.names.isEmpty then { l with names := l.names.dropLast }
  else if l.isRooted then l
  else { l with ups := l.ups + 1 }

def step (l : Location) (part : List Char) : Location :=
  if part = ['.', '.'] then l.up else { l with names := l.names ++ [part] }

/-- The places that a path leads through. -/
def along (path : String) : List Location :=
  ((Path.parts path.toList).foldl
    (fun (l, found) part => (l.step part, found ++ [l.step part]))
    (start path, ([] : List Location))).2

def ofPath (path : String) : Location := (Path.parts path.toList).foldl step (start path)

/-- The parts of the shortest path to a place. -/
def parts (l : Location) : List (List Char) := List.replicate l.ups ['.', '.'] ++ l.names

def path (l : Location) : String :=
  Path.plain (.ofList ((if l.isRooted then ['/'] else []) ++ ['/'].intercalate l.parts))

end Location

/-- What can be wrong with a path. -/
inductive PathError
  | missing
  | notDirectory
  | isTaken
  | isDirectory
  | tooLong
  | holdsNul
  deriving DecidableEq, Repr

/-- The files that a run reads, and the directories that it makes or finds. -/
structure Files where
  files : List Location := []
  made : List Location := []
  hasDirectory : String → Bool := fun _ => false

namespace Files

/-- How many bytes a name may have. -/
def maxName : Nat := 255

/-- How many bytes a path may have. -/
def maxPath : Nat := 4095

def isDirectory (f : Files) (l : Location) : Bool :=
  l.names.isEmpty || f.made.contains l || f.hasDirectory l.path

/-- The directory that a part leads to. -/
def enter (f : Files) (l : Location) (part : List Char) : Except PathError Location :=
  let next := l.step part
  if maxName < (String.ofList part).utf8ByteSize then .error .tooLong
  else if part = ['.', '.'] || f.isDirectory next then .ok next
  else if f.files.contains next then .error .notDirectory
  else .error .missing

/-- The directory at the end of some parts. -/
def follow (f : Files) (l : Location) (parts : List (List Char)) : Except PathError Location :=
  parts.foldlM f.enter l

/-- Makes the directories on a way that are missing. A file on the way is in the
place of a new directory once one has been made. -/
def makeAlong (f : Files) (l : Location) (hasMade : Bool) : List (List Char) →
    Except PathError Files
  | [] => .ok f
  | part :: rest =>
    match f.enter l part with
    | .ok next => makeAlong f next hasMade rest
    | .error .missing =>
      makeAlong { f with made := l.step part :: f.made } (l.step part) true rest
    | .error .notDirectory => .error (if hasMade then .isTaken else .notDirectory)
    | .error e => .error e

/-- Makes a directory and those on the way to it. -/
def makeDirectory (f : Files) (path : String) : Except PathError Files :=
  if path.toList.contains '\x00' then .error .holdsNul
  else if maxPath < path.utf8ByteSize then .error .tooLong
  else f.makeAlong (.start path) false (Path.parts path.toList)

/-- What keeps a path from being written to as a file. -/
def writeError? (f : Files) (path : String) : Option PathError :=
  let parts := Path.parts path.toList
  if maxPath < path.utf8ByteSize then some .tooLong
  else
    match f.follow (.start path) parts.dropLast with
    | .error e => some e
    | .ok directory =>
      match parts.getLast? with
      | none => some .isDirectory
      | some name =>
        match f.enter directory name with
        | .ok _ => some .isDirectory
        | .error .tooLong => some .tooLong
        | .error _ => none

end Files

end ContactCard
