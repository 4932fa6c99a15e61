/-!
# Keys of overrides

A key names a place by the parts on the way to it, with points between them or
brackets around them. A backslash takes the meaning from the mark behind it.
-/

namespace ContactCard.Override.Key

/-- Text before the first character `=` that does not follow a backslash, and the
text after it, if there is one. -/
def splitChars (isEscaped : Bool) : List Char → List Char × Option (List Char)
  | [] => ([], none)
  | c :: rest =>
    if c = '=' ∧ !isEscaped then ([], some rest)
    else
      let (key, value) := splitChars (c = '\\') rest
      (c :: key, value)

def split (s : String) : String × Option String :=
  let (key, value) := splitChars false s.toList
  (.ofList key, value.map String.ofList)

/-- A character of a key; marks have a meaning of their own. -/
structure KeyChar where
  char : Char
  isMark : Bool
  deriving DecidableEq

def point : KeyChar := ⟨'.', true⟩

def opening : KeyChar := ⟨'[', true⟩

def closing : KeyChar := ⟨']', true⟩

def marks : List Char := ['.', '[', ']']

/-- The characters that a backslash takes the meaning from. A backslash before
any other character stands for itself, also before another backslash. -/
def escapable : List Char := '=' :: marks

def chars : List Char → List KeyChar
  | [] => []
  | '\\' :: c :: rest =>
    if escapable.contains c then ⟨c, false⟩ :: chars rest else ⟨'\\', false⟩ :: chars (c :: rest)
  | c :: rest => ⟨c, marks.contains c⟩ :: chars rest

/-- The part that stands here, up to a point or an opening bracket. -/
def part (s : List KeyChar) : List KeyChar := s.takeWhile fun c => c != point && c != opening

/-- The parts behind the first one. What stands between a closing bracket and
the next mark names nothing. -/
def laterParts : List KeyChar → List (List KeyChar)
  | [] => []
  | c :: rest =>
    if c = point then part rest :: laterParts (rest.drop (part rest).length)
    else if c = opening then
      let inner := rest.takeWhile (· ≠ closing)
      if inner.length < rest.length then inner :: laterParts (rest.drop (inner.length + 1))
      else laterParts rest
    else laterParts rest
termination_by s => s.length
decreasing_by all_goals simp only [List.length_drop, List.length_cons]; omega

/-- The parts of a key. Every point in front stands for an empty part, and a key
may begin with a bracket. -/
def parts (s : List KeyChar) : List (List KeyChar) :=
  let points := s.takeWhile (· = point)
  let rest := s.drop points.length
  let first := part rest
  let rest := rest.drop first.length
  let empty : List (List KeyChar) := points.map fun _ => []
  if first.isEmpty && rest.head? = some opening then empty ++ laterParts rest
  else empty ++ first :: laterParts rest

def place (key : String) : List String :=
  (parts (chars key.toList)).map fun part => .ofList (part.map KeyChar.char)

end ContactCard.Override.Key
