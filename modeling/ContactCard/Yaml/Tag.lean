/-!
# Tags

What kind of thing a node of a document is said to be.
-/

namespace ContactCard.Yaml

inductive Tag
  | null
  | bool
  | int
  | float
  | text
  | bytes
  | time
  | list
  | pairs
  | set
  | mapping
  | merge
  | default
  | path (isUsable : Bool)
  | other (name : String)
  deriving DecidableEq, Repr

namespace Tag

/-- The stem of the names that the standard tags have. -/
def stem : String := "tag:yaml.org,2002:"

def standard : List (String × Tag) := [
  ("null", null), ("bool", bool), ("int", int), ("float", float), ("str", text), ("binary", bytes),
  ("timestamp", time), ("seq", list), ("omap", pairs), ("pairs", pairs), ("set", set),
  ("map", mapping), ("merge", merge), ("value", default)]

/-- The tags of paths by their names. Of paths of a foreign system there are none to
use. -/
def paths : List (String × Tag) :=
  ["pathlib.", "pathlib._local."].flatMap fun place =>
    [("Path", path true), ("PosixPath", path true), ("WindowsPath", path false)].map fun entry =>
      ("python/object/apply:" ++ place ++ entry.1, entry.2)

def ofName (name : String) : Tag :=
  (((standard ++ paths).find? fun entry => stem ++ entry.1 == name).map (·.2)).getD (other name)

end Tag

end ContactCard.Yaml
