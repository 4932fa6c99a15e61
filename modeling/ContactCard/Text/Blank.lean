import ContactCard.Text.Ranges

/-!
# Surrounding blanks

The 29 characters that count as white space around a value: the ASCII blanks
and separators, the next-line character, and the Unicode spaces. Zero-width
characters are not among them.
-/

namespace ContactCard.Text

def blankRanges : Ranges := [
  (0x9, 0xd), (0x1c, 0x20), (0x85, 0x85), (0xa0, 0xa0), (0x1680, 0x1680), (0x2000, 0x200a),
  (0x2028, 0x2029), (0x202f, 0x202f), (0x205f, 0x205f), (0x3000, 0x3000)]

def isBlank (c : Char) : Bool := blankRanges.has c

/-- Drops what `drop` accepts at both ends. -/
def stripWith (drop : Char → Bool) (s : List Char) : List Char :=
  ((s.dropWhile drop).reverse.dropWhile drop).reverse

def stripChars (s : List Char) : List Char := stripWith isBlank s

/-- The text without the blanks at its two ends. -/
def strip (s : String) : String := .ofList (stripChars s.toList)

@[simp]
theorem toList_strip (s : String) : (strip s).toList = stripChars s.toList := by
  simp [strip]

end ContactCard.Text
