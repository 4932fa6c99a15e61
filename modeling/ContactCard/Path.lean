import ContactCard.Text.Pieces

/-!
# Paths

A path in its plain form: without empty and `.` parts, with `..` kept. Two
slashes in front are kept as two, any other number of them becomes one, and a
path without parts is `.`.
-/

namespace ContactCard.Path

def parts (path : List Char) : List (List Char) :=
  (Text.pieces '/' path).filter fun part => part ≠ [] ∧ part ≠ ['.']

/-- The slashes that a path begins with. -/
def lead (path : List Char) : List Char :=
  match (path.takeWhile (· = '/')).length with
  | 0 => []
  | 2 => ['/', '/']
  | _ => ['/']

def plainChars (path : List Char) : List Char :=
  let plain := lead path ++ ['/'].intercalate (parts path)
  if plain.isEmpty then ['.'] else plain

def plain (path : String) : String := .ofList (plainChars path.toList)

/-- The path that goes on from each of some paths to the next one, which begins anew
where it begins with slashes. -/
def joined (paths : List String) : String :=
  let (start, names) := paths.foldl
    (fun (start, names) path =>
      match lead path.toList with
      | [] => (start, names ++ parts path.toList)
      | slashes => (slashes, parts path.toList))
    ([], [])
  let plain := start ++ ['/'].intercalate names
  if plain.isEmpty then "." else .ofList plain

/-- The path of a name in a directory. -/
def join (directory name : String) : String :=
  if directory.toList.getLast? = some '/' then plain (directory ++ name)
  else plain (directory ++ "/" ++ name)

end ContactCard.Path
