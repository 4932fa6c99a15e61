/-!
# Terminal text

Messages to a terminal lose the sequences that would set its colours: an escape
character, a bracket, digits, semicolons and question marks, and a letter.
-/

namespace ContactCard.Terminal

def isParameter (c : Char) : Bool := c.isDigit || c = ';' || c = '?'

/-- Text without colour sequences; `pending` is what may still become one,
last character first. -/
def plainFrom (pending : List Char) : List Char → List Char
  | [] => pending.reverse
  | c :: rest =>
    if pending = ['\x1b'] ∧ c = '[' then plainFrom ['[', '\x1b'] rest
    else if 2 ≤ pending.length ∧ isParameter c then plainFrom (c :: pending) rest
    else if 2 ≤ pending.length ∧ c.isAlpha then plainFrom [] rest
    else if c = '\x1b' then pending.reverse ++ plainFrom ['\x1b'] rest
    else pending.reverse ++ c :: plainFrom [] rest

def plain (s : String) : String := .ofList (plainFrom [] s.toList)

end ContactCard.Terminal
