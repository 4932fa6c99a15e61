import ContactCard.Text.LineBreak

/-!
# Caret encoding

Parameter values may hold no double quote and no line break. RFC 6868 writes
a caret in front of a letter for each: `^^`, `^n` and `^'`.
-/

namespace ContactCard.Text

namespace Caret

def encode (s : List Char) : List Char :=
  replaceChar '"' ['^', '\''] (replaceBreaks ['^', 'n'] (replaceChar '^' ['^', '^'] s))

/-- Reads a caret pair as the character it stands for; a caret before any other
character stands for itself. -/
def decode : List Char → List Char
  | '^' :: '^' :: rest => '^' :: decode rest
  | '^' :: 'n' :: rest => '\n' :: decode rest
  | '^' :: '\'' :: rest => '"' :: decode rest
  | c :: rest => c :: decode rest
  | [] => []

end Caret

def encodeCaret (s : String) : String := .ofList (Caret.encode s.toList)

def decodeCaret (s : String) : String := .ofList (Caret.decode s.toList)

@[simp]
theorem toList_encodeCaret (s : String) : (encodeCaret s).toList = Caret.encode s.toList := by
  simp [encodeCaret]

end ContactCard.Text
