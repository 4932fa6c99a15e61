/-!
# Messages with notes

An error message is followed by notes on where the error lies, each on a line
of its own.
-/

namespace ContactCard

/-- A message and the notes that have something to say. -/
def withNotes (message : String) (notes : List (String × Option String)) : String :=
  let lines := notes.filterMap fun note => note.2.map fun s => note.1 ++ ": " ++ s
  "\n".intercalate (message :: lines)

/-- Text that says something. -/
def nonempty? (s : String) : Option String := if s = "" then none else some s

end ContactCard
