import ContactCard.Number.Decimal
import ContactCard.Value

/-!
# Reading JSON

A value from JSON text. Members of an object keep their order; of members with
the same name the last gives the value. A number without a point or exponent is
an integer.
-/

namespace ContactCard.Json

def isSpace (c : Char) : Bool := c = ' ' || c = '\t' || c = '\n' || c = '\r'

def skipSpace (s : List Char) : List Char := s.dropWhile isSpace

def hexDigit? (c : Char) : Option Nat :=
  if '0' ≤ c ∧ c ≤ '9' then some (c.toNat - '0'.toNat)
  else if 'a' ≤ c ∧ c ≤ 'f' then some (c.toNat - 'a'.toNat + 10)
  else if 'A' ≤ c ∧ c ≤ 'F' then some (c.toNat - 'A'.toNat + 10)
  else none

/-- Four hexadecimal digits and what follows them. -/
def hexUnit? : List Char → Option (Nat × List Char)
  | a :: b :: c :: d :: rest => do
    let digits ← [a, b, c, d].mapM hexDigit?
    return (digits.foldl (fun n digit => 16 * n + digit) 0, rest)
  | _ => none

/-- The character of an escape whose first unit is read; two surrogates make
one character. -/
def unicodeEscape? (s : List Char) : Option (Char × List Char) := do
  let (unit, rest) ← hexUnit? s
  if 0xd800 ≤ unit ∧ unit < 0xdc00 then
    match rest with
    | '\\' :: 'u' :: more => do
      let (low, rest) ← hexUnit? more
      if 0xdc00 ≤ low ∧ low < 0xe000 then
        some (Char.ofNat (0x10000 + (unit - 0xd800) * 0x400 + (low - 0xdc00)), rest)
      else none
    | _ => none
  else if 0xdc00 ≤ unit ∧ unit < 0xe000 then none
  else some (Char.ofNat unit, rest)

def simpleEscape? : Char → Option Char
  | '"' => some '"'
  | '\\' => some '\\'
  | '/' => some '/'
  | 'b' => some '\x08'
  | 'f' => some '\x0c'
  | 'n' => some '\n'
  | 'r' => some '\r'
  | 't' => some '\t'
  | _ => none

/-- The characters of a string up to its closing quote, and what follows. The
number bounds the characters that are read. -/
def string? : Nat → List Char → Option (List Char × List Char)
  | 0, _ => none
  | _ + 1, [] => none
  | _ + 1, '"' :: rest => some ([], rest)
  | bound + 1, '\\' :: 'u' :: rest => do
    let (c, rest) ← unicodeEscape? rest
    let (cs, rest) ← string? bound rest
    return (c :: cs, rest)
  | bound + 1, '\\' :: c :: rest => do
    let c ← simpleEscape? c
    let (cs, rest) ← string? bound rest
    return (c :: cs, rest)
  | bound + 1, c :: rest => do
    let (cs, rest) ← string? bound rest
    return (c :: cs, rest)

def isNumberChar (c : Char) : Bool :=
  c.isDigit || c = '-' || c = '+' || c = '.' || c = 'e' || c = 'E'

def number? (s : List Char) : Option Scalar :=
  let (negative, digits) :=
    match s with
    | '-' :: rest => (true, rest)
    | rest => (false, rest)
  match Binary64.takeDigits digits with
  | ([], _) => none
  | (ds, []) =>
    let n : Int := Integer.ofDigits 10 ds
    some (.int (if negative then -n else n))
  | _ => (Binary64.unsigned? negative digits).map Scalar.float

def word? (s : List Char) : Option (Scalar × List Char) :=
  match s with
  | 'n' :: 'u' :: 'l' :: 'l' :: rest => some (.null, rest)
  | 't' :: 'r' :: 'u' :: 'e' :: rest => some (.bool true, rest)
  | 'f' :: 'a' :: 'l' :: 's' :: 'e' :: rest => some (.bool false, rest)
  | _ => (number? (s.takeWhile isNumberChar)).map fun n => (n, s.dropWhile isNumberChar)

mutual

/-- A value and what follows it. The number bounds the steps of reading. -/
def value? : Nat → List Char → Option (Value × List Char)
  | 0, _ => none
  | bound + 1, s =>
    match skipSpace s with
    | '"' :: rest => (string? (rest.length + 1) rest).map fun found =>
        (.text (.ofList found.1), found.2)
    | '[' :: rest =>
      match skipSpace rest with
      | ']' :: rest => some (.list [], rest)
      | rest => (items? bound rest).map fun found => (.list found.1, found.2)
    | '{' :: rest =>
      match skipSpace rest with
      | '}' :: rest => some (.mapping [], rest)
      | rest => (members? bound rest).map fun found => (.ofPairs found.1, found.2)
    | s => (word? s).map fun found => (.scalar found.1, found.2)

def items? : Nat → List Char → Option (List Value × List Char)
  | 0, _ => none
  | bound + 1, s =>
    match value? bound s with
    | none => none
    | some (v, rest) =>
      match skipSpace rest with
      | ']' :: rest => some ([v], rest)
      | ',' :: rest => (items? bound rest).map fun found => (v :: found.1, found.2)
      | _ => none

def members? : Nat → List Char → Option (List (Scalar × Value) × List Char)
  | 0, _ => none
  | bound + 1, s =>
    match value? bound s with
    | some (.scalar key, rest) =>
      match skipSpace rest with
      | ':' :: rest =>
        match value? bound rest with
        | none => none
        | some (v, rest) =>
          match skipSpace rest with
          | '}' :: rest => some ([(key, v)], rest)
          | ',' :: rest => (members? bound rest).map fun found => ((key, v) :: found.1, found.2)
          | _ => none
      | _ => none
    | _ => none

end

def read? (s : String) : Option Value :=
  let cs := s.toList
  match value? (2 * cs.length + 2) cs with
  | some (v, rest) => if (skipSpace rest).isEmpty then some v else none
  | none => none

end ContactCard.Json
