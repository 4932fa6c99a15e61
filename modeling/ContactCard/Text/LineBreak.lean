/-!
# Line breaks

A line break is a CR LF pair, a lone CR or a lone LF. Breaks are replaced pairs
first, so that a pair counts once.
-/

namespace ContactCard.Text

/-- Puts `mark` in place of every `c`. -/
def replaceChar (c : Char) (mark : List Char) (s : List Char) : List Char :=
  s.flatMap fun x => if x = c then mark else [x]

/-- Puts `mark` in place of every CR LF pair. -/
def replacePairs (mark : List Char) : List Char → List Char
  | '\r' :: '\n' :: rest => mark ++ replacePairs mark rest
  | c :: rest => c :: replacePairs mark rest
  | [] => []

/-- Puts `mark` in place of every line break. -/
def replaceBreaks (mark : List Char) (s : List Char) : List Char :=
  replaceChar '\n' mark (replaceChar '\r' mark (replacePairs mark s))

/-- Writes every line break as a single LF. -/
def normalizeBreaks (s : List Char) : List Char := replaceBreaks ['\n'] s

/-- The text with its line breaks normalised. -/
def normalize (s : String) : String := .ofList (normalizeBreaks s.toList)

@[simp]
theorem toList_normalize (s : String) : (normalize s).toList = normalizeBreaks s.toList := by
  simp [normalize]

@[simp]
theorem replaceChar_nil (c : Char) (mark : List Char) : replaceChar c mark [] = [] := rfl

@[simp]
theorem replaceChar_cons (c x : Char) (mark s : List Char) :
    replaceChar c mark (x :: s) = (if x = c then mark else [x]) ++ replaceChar c mark s := rfl

@[simp]
theorem replaceChar_append (c : Char) (mark s t : List Char) :
    replaceChar c mark (s ++ t) = replaceChar c mark s ++ replaceChar c mark t := by
  simp [replaceChar]

end ContactCard.Text
