/-!
# Bytes in text

Bytes written with 64 ASCII characters, four for every three bytes. Characters
that are none of these do not count. Two equals signs stand in for the characters
that are missing from the last four, one for the last of them.
-/

namespace ContactCard.Yaml.Base64

/-- The six bits that a character stands for. -/
def value? (c : Char) : Option Nat :=
  if c.isUpper then some (c.toNat - 'A'.toNat)
  else if c.isLower then some (c.toNat - 'a'.toNat + 26)
  else if c.isDigit then some (c.toNat - '0'.toNat + 52)
  else if c = '+' then some 62
  else if c = '/' then some 63
  else none

/-- The bytes that some characters complete, after `count` characters of a group
of four whose bits not used yet make `bits`, and after `signs` equals signs. -/
def decodeFrom (count bits signs : Nat) : List Char → Option (List Nat)
  | [] => if count = 0 then some [] else none
  | c :: rest =>
    if c = '=' then
      if count < 2 then decodeFrom count bits signs rest
      else if 4 ≤ count + signs + 1 then some []
      else decodeFrom count bits (signs + 1) rest
    else
      match value? c with
      | none => decodeFrom count bits signs rest
      | some v =>
        match count with
        | 0 => decodeFrom 1 v 0 rest
        | 1 => (decodeFrom 2 (v % 16) 0 rest).map ((bits * 4 + v / 16) :: ·)
        | 2 => (decodeFrom 3 (v % 4) 0 rest).map ((bits * 16 + v / 4) :: ·)
        | _ => (decodeFrom 0 0 0 rest).map ((bits * 64 + v) :: ·)

/-- The bytes that a text stands for. Other than ASCII characters are refused. -/
def decode? (s : List Char) : Option (List UInt8) :=
  if s.all fun c => c.toNat < 0x80 then (decodeFrom 0 0 0 s).map (·.map Nat.toUInt8) else none

end ContactCard.Yaml.Base64
