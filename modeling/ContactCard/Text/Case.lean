import ContactCard.Text.Case.Table

/-!
# Upper and lower case

Full case mapping of text. A character may map to several (`ß` to `SS`), and
the lower case of a capital sigma depends on its neighbours: it is the final
form at the end of a word and the plain one elsewhere.
-/

namespace ContactCard.Text

namespace Case

/-- The only page that can hold a code point. -/
def Paged.page {α : Type} (n : Nat) : Paged α → List α
  | [] => []
  | (last, entries) :: rest => if n ≤ last then entries else Paged.page n rest

def Run.image? (run : Run) (n : Nat) : Option Nat :=
  if run.first ≤ n ∧ n ≤ run.last ∧ (n - run.first) % run.step = 0 then
    some (run.image + (n - run.first))
  else none

/-- The image of a code point, if some run moves it. -/
def image? (runs : Paged Run) (n : Nat) : Option Nat := (runs.page n).findSome? (·.image? n)

def expansion? (expansions : Paged (Nat × List Nat)) (n : Nat) : Option (List Nat) :=
  (expansions.page n).findSome? fun entry => if entry.1 = n then some entry.2 else none

/-- One character under expansions first and runs second. -/
def mapChar (expansions : Paged (Nat × List Nat)) (runs : Paged Run) (c : Char) : List Char :=
  match expansion? expansions c.toNat with
  | some codes => codes.map Char.ofNat
  | none =>
    match image? runs c.toNat with
    | some code => [Char.ofNat code]
    | none => [c]

def upperChar (c : Char) : List Char := mapChar upperExpansions upperRuns c

/-- The lower case of a character, a capital sigma apart. -/
def lowerChar (c : Char) : List Char := mapChar lowerExpansions lowerRuns c

/-- Whether the first character that is not skipped is a cased one. -/
def meetsCased : List Char → Bool
  | [] => false
  | c :: rest => if ignorableRanges.has c then meetsCased rest else casedRanges.has c

/-- A sigma after a cased character and before none ends its word. -/
def lowerSigma (before after : List Char) : Char :=
  if meetsCased before && !meetsCased after then 'ς' else 'σ'

/-- Lower case of the rest of a text; `before` is what precedes it, nearest first. -/
def lowerAfter (before : List Char) : List Char → List Char
  | [] => []
  | c :: rest =>
    (if c = 'Σ' then [lowerSigma before rest] else lowerChar c) ++ lowerAfter (c :: before) rest

end Case

def upperChars (s : List Char) : List Char := s.flatMap Case.upperChar

def lowerChars (s : List Char) : List Char := Case.lowerAfter [] s

def upper (s : String) : String := .ofList (upperChars s.toList)

def lower (s : String) : String := .ofList (lowerChars s.toList)

@[simp]
theorem toList_upper (s : String) : (upper s).toList = upperChars s.toList := by
  simp [upper]

@[simp]
theorem toList_lower (s : String) : (lower s).toList = lowerChars s.toList := by
  simp [lower]

@[simp]
theorem upperChars_append (s t : List Char) :
    upperChars (s ++ t) = upperChars s ++ upperChars t := by
  simp [upperChars]

end ContactCard.Text
