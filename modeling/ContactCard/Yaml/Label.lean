import ContactCard.Yaml.Cursor
import ContactCard.Yaml.Digit
import ContactCard.Yaml.Error
import ContactCard.Yaml.Token

/-!
# Labels

The names of anchors, the tags of nodes, and directives. Each is read from the
text behind its mark, and gives what follows it.
-/

namespace ContactCard.Yaml

def isNameChar (c : Char) : Bool := c.isAlphanum || c = '-' || c = '_'

/-- The name of an anchor. -/
def anchorName (s : List Char) : Except ReadError (String × List Char) :=
  let name := s.takeWhile isNameChar
  let rest := s.drop name.length
  let isClosed := isBoundary rest
    || rest.head?.any fun c => ['?', ':', ',', ']', '\x7d', '%', '@', '\x60'].contains c
  if name.isEmpty || !isClosed then .error .badToken else .ok (.ofList name, rest)

/-- The characters of a tag; a tag in angle brackets may hold some more. -/
def isUriChar (isEnclosed : Bool) (c : Char) : Bool :=
  isNameChar c || ";/?:@&=+$.!~*'()%".toList.contains c
    || (isEnclosed && [',', '[', ']'].contains c)

/-- How many bytes a character has by the first of them, and the part of its code
that this one holds. -/
def lead? (byte : Nat) : Option (Nat × Nat) :=
  if byte < 0x80 then some (1, byte)
  else if byte < 0xc0 then none
  else if byte < 0xe0 then some (2, byte - 0xc0)
  else if byte < 0xf0 then some (3, byte - 0xe0)
  else if byte < 0xf8 then some (4, byte - 0xf0)
  else none

/-- The byte that a percent sign with two hexadecimal digits stands for. -/
def percentByte : List Char → Except ReadError (Nat × List Char)
  | '%' :: a :: b :: rest =>
    match natural? 16 [a, b] with
    | some n => .ok (n, rest)
    | none => .error .badToken
  | _ => .error .badToken

/-- The code of a character that goes on for some bytes. -/
def percentCode (code : Nat) (s : List Char) : Nat → Except ReadError (Nat × List Char)
  | 0 => .ok (code, s)
  | count + 1 => do
    let (byte, rest) ← percentByte s
    if byte / 64 ≠ 2 then throw .badToken
    percentCode (64 * code + byte % 64) rest count

/-- The least code that is written with some bytes. -/
def leastCode : Nat → Nat
  | 2 => 0x80
  | 3 => 0x800
  | 4 => 0x10000
  | _ => 0

/-- Whether a character written with some bytes has a code; surrogates are none. -/
def isCode (count code : Nat) : Bool :=
  leastCode count ≤ code && (code < 0xd800 || (0xe000 ≤ code && code < 0x110000))

/-- The character that percent signs stand for; bytes that only have the form of one
stand for none. -/
def percentChar (s : List Char) : Except ReadError (Option Char × List Char) := do
  let (byte, rest) ← percentByte s
  match lead? byte with
  | none => throw .badToken
  | some (count, lead) =>
    let (code, rest) ← percentCode lead rest (count - 1)
    return (if isCode count code then some (.ofNat code) else none, rest)

/-- Characters of a tag, in which percent signs stand for bytes of text. -/
def uriWithin (isEnclosed : Bool) :
    Nat → List Char → Except ReadError (List (Option Char) × List Char)
  | 0, s => .ok ([], s)
  | fuel + 1, s =>
    match s with
    | [] => .ok ([], [])
    | c :: rest =>
      if c = '%' then do
        let (char, rest) ← percentChar s
        let (more, rest) ← uriWithin isEnclosed fuel rest
        return (char :: more, rest)
      else if isUriChar isEnclosed c then do
        let (more, rest) ← uriWithin isEnclosed fuel rest
        return (some c :: more, rest)
      else .ok ([], s)

def uri (isEnclosed : Bool) (s : List Char) : Except ReadError (List (Option Char) × List Char) :=
  uriWithin isEnclosed s.length s

/-- The text of characters up to the first NUL, if none before it is missing. -/
def uriText (chars : List (Option Char)) : Option String :=
  ((chars.takeWhile (· ≠ some '\x00')).mapM id).map String.ofList

/-- Characters of a tag, at least one. -/
def someUri (isEnclosed : Bool) (s : List Char) :
    Except ReadError (Option String × List Char) := do
  let (chars, rest) ← uri isEnclosed s
  if chars.isEmpty then throw .badToken else return (uriText chars, rest)

/-- The exclamation mark that a text begins with, the name behind it, and the
mark that closes the name, if there is one. -/
def handleChars (s : List Char) : List Char × List Char :=
  let name := s.tail.takeWhile isNameChar
  let rest := s.tail.drop name.length
  if rest.head? = some '!' then ('!' :: (name ++ ['!']), rest.tail) else ('!' :: name, rest)

/-- Whether the characters from an exclamation mark on are a handle. -/
def isHandle (chars : List Char) : Bool := 1 < chars.length && chars.getLast? = some '!'

/-- A tag with its exclamation mark. In a flow collection a comma may follow. -/
def tag (flow : Bool) (s : List Char) : Except ReadError (Token × List Char) := do
  let (label, rest) ← show Except ReadError (Token × List Char) from
    if s.tail.head? = some '<' then do
      let (suffix, rest) ← someUri true s.tail.tail
      if rest.head? = some '>' then return (.tag none suffix, rest.tail)
      else throw .badToken
    else do
      let (chars, rest) := handleChars s
      if isHandle chars then
        let (suffix, rest) ← someUri false rest
        return (.tag (some (.ofList chars)) suffix, rest)
      else
        let (more, rest) ← uri false rest
        match uriText (chars.tail.map some ++ more) with
        | some "" => return (.tag none (some "!"), rest)
        | suffix => return (.tag (some "!") suffix, rest)
  if isBoundary rest || (flow && rest.head? = some ',') then return (label, rest)
  else throw .badToken

/-- How many digits the number of a version may have. -/
def maxVersionDigits : Nat := 9

/-- A decimal number. -/
def directiveNumber (s : List Char) : Except ReadError (Nat × List Char) :=
  let digits := s.takeWhile Char.isDigit
  if maxVersionDigits < digits.length then .error .badToken
  else
    match natural? 10 digits with
    | some n => .ok (n, s.drop digits.length)
    | none => .error .badToken

def skipGaps (s : List Char) : List Char := s.dropWhile isGap

/-- A directive behind its percent sign, up to a comment or the end of its line. -/
def directive (s : List Char) : Except ReadError (Directive × List Char) := do
  let name := s.takeWhile isNameChar
  let rest := s.drop name.length
  if !isBoundary rest then throw .badToken
  match String.ofList name with
  | "YAML" =>
    let (major, rest) ← directiveNumber (skipGaps rest)
    if rest.head? ≠ some '.' then throw .badToken
    let (minor, rest) ← directiveNumber rest.tail
    return (.version major minor, rest)
  | "TAG" =>
    let s := skipGaps rest
    let (chars, rest) := handleChars s
    if s.head? ≠ some '!' || !(isHandle chars || chars = ['!']) then throw .badToken
    if !(rest.head?.any isGap) then throw .badToken
    let (stem, rest) ← someUri true (skipGaps rest)
    if isBoundary rest then return (.handle (.ofList chars) stem, rest)
    else throw .badToken
  | _ => throw .badToken

end ContactCard.Yaml
