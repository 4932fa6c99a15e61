/-!
# Pieces of text

Text cut at every occurrence of a character. There is one piece more than there
are cuts.
-/

namespace ContactCard.Text

/-- Puts a piece in front of the first of some pieces. -/
def extend (piece : List Char) : List (List Char) → List (List Char)
  | [] => [piece]
  | first :: rest => (piece ++ first) :: rest

def pieces (separator : Char) : List Char → List (List Char)
  | [] => [[]]
  | c :: rest =>
    if c = separator then [] :: pieces separator rest else extend [c] (pieces separator rest)

end ContactCard.Text
