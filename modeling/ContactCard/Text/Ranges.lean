/-!
# Character classes as ranges

A class of characters is given by its code points, as ranges in ascending
order that do not touch.
-/

namespace ContactCard.Text

/-- Inclusive ranges of code points, in ascending order. -/
abbrev Ranges := List (Nat × Nat)

/-- Whether `n` lies in one of the ranges; the search stops at the first range
that begins above `n`. -/
def Ranges.hasCode (n : Nat) : Ranges → Bool
  | [] => false
  | (low, high) :: rest => if n < low then false else n ≤ high || Ranges.hasCode n rest

def Ranges.has (ranges : Ranges) (c : Char) : Bool := ranges.hasCode c.toNat

end ContactCard.Text
