import ContactCard.Yaml.Cursor
import ContactCard.Yaml.Error

/-!
# Block text

Text in lines of its own, indented below the mark that begins it. Lines are
kept as they are or folded, and the breaks after the last line are dropped,
kept, or cut to one.
-/

namespace ContactCard.Yaml

/-- What becomes of the line breaks at the end. -/
inductive Chomping
  | strip
  | clip
  | keep
  deriving DecidableEq, Repr

/-- What stands behind the mark: how the end is treated, and how much deeper
than its surroundings the text is indented. -/
structure BlockHeader where
  chomping : Chomping := .clip
  increment : Option Nat := none

namespace BlockHeader

def chomping? : Char → Option Chomping
  | '+' => some .keep
  | '-' => some .strip
  | _ => none

def increment? (c : Char) : Option Nat :=
  if '1' ≤ c ∧ c ≤ '9' then some (c.toNat - '0'.toNat) else none

/-- A header of at most two marks in any order, and what follows them. -/
def read : List Char → BlockHeader × List Char
  | [] => ({}, [])
  | c :: rest =>
    match chomping? c, increment? c with
    | some chomping, _ =>
      match rest with
      | d :: more =>
        match increment? d with
        | some n => (⟨chomping, some n⟩, more)
        | none => (⟨chomping, none⟩, rest)
      | [] => (⟨chomping, none⟩, [])
    | none, some n =>
      match rest with
      | d :: more =>
        match chomping? d with
        | some chomping => (⟨chomping, some n⟩, more)
        | none => (⟨.clip, some n⟩, rest)
      | [] => (⟨.clip, some n⟩, [])
    | none, none => ({}, c :: rest)

end BlockHeader

namespace Cursor

/-- The place behind spaces, at the column `indent` at most. -/
def skipIndent (p : Cursor) (indent : Nat) : Cursor :=
  p.drop ((p.rest.takeWhile (· = ' ')).length.min (indent - p.column))

/-- The breaks of empty lines at the head of a text, the greatest column that
they reach, and the place after them. Only spaces may indent a line. -/
def leadingLines (p : Cursor) : Nat → Except ReadError (List Char × Nat × Cursor)
  | 0 => .ok ([], 0, p)
  | fuel + 1 =>
    let p := p.skip (· = ' ')
    if p.rest.head? = some '\t' then .error .badToken
    else
      match takeBreak? p.rest with
      | none => .ok ([], p.column, p)
      | some (b, rest) =>
        ((p.moveTo rest).leadingLines fuel).map fun (more, column, after) =>
          (b :: more, max p.column column, after)

/-- The breaks of empty lines inside of a text, and the place after them. -/
def innerLines (p : Cursor) (indent : Nat) : Nat → Except ReadError (List Char × Cursor)
  | 0 => .ok ([], p)
  | fuel + 1 =>
    let p := p.skipIndent indent
    if p.column < indent && p.rest.head? = some '\t' then .error .badToken
    else
      match takeBreak? p.rest with
      | none => .ok ([], p)
      | some (b, rest) =>
        ((p.moveTo rest).innerLines indent fuel).map fun (more, after) => (b :: more, after)

end Cursor

/-- Lines of block text: the text up to its last line, the break that ends it,
the breaks of the empty lines after it, and the place behind all. -/
structure BlockLines where
  text : List Char := []
  lineBreak : List Char := []
  empty : List Char
  after : Cursor

def startsWithGap (s : List Char) : Bool := s.head?.any isGap

/-- What a line break inside the text counts for. It is folded between two lines
that do not begin with a gap. -/
def blockBreak (isFolded : Bool) (line lineBreak empty next : List Char) : List Char :=
  if isFolded && lineBreak = ['\n'] && !startsWithGap line && !startsWithGap next then
    if empty.isEmpty then [' '] else []
  else lineBreak

/-- Lines from a place on, after some empty lines. -/
def BlockLines.read (isFolded : Bool) (indent : Nat) :
    Nat → List Char → Cursor → Except ReadError BlockLines
  | 0, empty, p => .ok { empty, after := p }
  | fuel + 1, empty, p =>
    if p.column = indent && !p.isAtEnd then do
      let line := p.rest.takeWhile fun c => !isBreak c
      let p := p.drop line.length
      let (lineBreak, p) : List Char × Cursor :=
        match takeBreak? p.rest with
        | some (b, rest) => ([b], p.moveTo rest)
        | none => ([], p)
      let (inner, p) ← p.innerLines indent (p.rest.length + 1)
      if p.column = indent && !p.isAtEnd then
        let more ← read isFolded indent fuel inner p
        let joint := blockBreak isFolded line lineBreak inner p.rest
        return { more with text := empty ++ line ++ joint ++ more.text }
      else return ⟨empty ++ line, lineBreak, inner, p⟩
    else .ok { empty, after := p }

/-- Block text whose mark is taken, inside of blocks whose indentation is less
than `minimum`. -/
def Cursor.block (p : Cursor) (isFolded : Bool) (minimum : Nat) :
    Except ReadError (List Char × Cursor) := do
  let (header, rest) := BlockHeader.read p.rest
  match (p.moveTo rest).endLine? with
  | none => throw .badToken
  | some p =>
    let size := p.rest.length + 1
    let minimum := max minimum 1
    let (indent, empty, p) ← show Except ReadError (Nat × List Char × Cursor) from
      match header.increment with
      | some n => (p.innerLines (minimum + n - 1) size).map fun found => (minimum + n - 1, found)
      | none =>
        (p.leadingLines size).map fun (empty, column, p) => (max minimum column, empty, p)
    let lines ← BlockLines.read isFolded indent size empty p
    return (lines.text
      ++ (if header.chomping = .strip then [] else lines.lineBreak)
      ++ (if header.chomping = .keep then lines.empty else []), lines.after)

end ContactCard.Yaml
