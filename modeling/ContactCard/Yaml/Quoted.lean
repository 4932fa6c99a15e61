import ContactCard.Yaml.Cursor
import ContactCard.Yaml.Digit
import ContactCard.Yaml.Error

/-!
# Quoted text

Text between single or double quotes. Line breaks are folded together with the
gaps around them. Between single quotes a doubled quote stands for one; between
double quotes a backslash begins an escape.
-/

namespace ContactCard.Yaml

/-- The breaks of the empty lines that begin here, and the first line that is
not empty without the gap in front. A separator of documents cannot stand
inside of quotes. -/
def emptyLines (s : List Char) : Except ReadError (List Char × List Char) :=
  if isSeparator s then .error .badToken
  else
    match _h : takeBreak? (s.dropWhile isGap) with
    | none => .ok ([], s.dropWhile isGap)
    | some (b, rest) => (emptyLines rest).map fun found => (b :: found.1, found.2)
termination_by s.length
decreasing_by
  have shorter := length_of_takeBreak? ‹_›
  have := (List.dropWhile_sublist isGap (l := s)).length_le
  omega

/-- The characters that stand for another one after a backslash. -/
def escapes : List (Char × Char) := [
  ('0', '\x00'), ('a', '\x07'), ('b', '\x08'), ('t', '\t'), ('\t', '\t'), ('n', '\n'),
  ('v', '\x0b'), ('f', '\x0c'), ('r', '\r'), ('e', '\x1b'), (' ', ' '), ('"', '"'), ('\\', '\\'),
  ('/', '/'), ('N', '\u0085'), ('_', '\u00a0'), ('L', '\u2028'), ('P', '\u2029')]

/-- How many hexadecimal digits of a code point follow a letter. -/
def codeLength? : Char → Option Nat
  | 'x' => some 2
  | 'u' => some 4
  | 'U' => some 8
  | _ => none

/-- What an escape stands for, and what follows it; its backslash is taken. -/
def escape : List Char → Except ReadError (List Char × List Char)
  | [] => .error .badToken
  | c :: rest =>
    match escapes.lookup c, codeLength? c with
    | some meant, _ => .ok ([meant], rest)
    | none, some length =>
      match natural? 16 (rest.take length) with
      | some code =>
        if rest.length < length || !code.isValidChar then .error .badToken
        else .ok ([Char.ofNat code], rest.drop length)
      | none => .error .badToken
    | none, none =>
      match takeBreak? (c :: rest) with
      | some (_, rest) => emptyLines rest
      | none => .error .badToken

/-- Text up to its closing quote and what follows the quote. -/
def quotedWithin (double : Bool) : Nat → List Char → Except ReadError (List Char × List Char)
  | 0, _ => .error .badToken
  | fuel + 1, s =>
    let goOn (text rest : List Char) : Except ReadError (List Char × List Char) :=
      (quotedWithin double fuel rest).map fun found => (text ++ found.1, found.2)
    match s with
    | [] => .error .badToken
    | c :: rest =>
      if isGap c || isBreak c then
        match takeBreak? (s.dropWhile isGap) with
        | none => goOn (s.takeWhile isGap) (s.dropWhile isGap)
        | some (b, rest) => do
          let (empty, rest) ← emptyLines rest
          goOn (folded b empty) rest
      else if double then
        if c = '"' then .ok ([], rest)
        else if c = '\\' then do
          let (text, rest) ← escape rest
          goOn text rest
        else goOn [c] rest
      else if c = '\'' then
        if rest.head? = some '\'' then goOn [c] rest.tail else .ok ([], rest)
      else goOn [c] rest

/-- Quoted text whose opening quote is taken. -/
def quoted (double : Bool) (s : List Char) : Except ReadError (List Char × List Char) :=
  quotedWithin double (s.length + 1) s

end ContactCard.Yaml
