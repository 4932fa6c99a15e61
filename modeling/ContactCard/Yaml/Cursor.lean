/-!
# Places in a text

A cursor is what is left of a text, together with how far into the text that
is: the characters and the lines before it and the column in its line.
-/

namespace ContactCard.Yaml

def isGap (c : Char) : Bool := c = ' ' || c = '\t'

def isBreak (c : Char) : Bool :=
  c = '\n' || c = '\r' || c = '\u0085' || c = '\u2028' || c = '\u2029'

/-- Whether a text ends here or goes on with a gap or a line break. -/
def isBoundary : List Char → Bool
  | [] => true
  | c :: _ => isGap c || isBreak c

/-- A line break as it counts in text, and what follows it: the line and
paragraph separators stand for themselves, all other breaks for a line feed. -/
def takeBreak? : List Char → Option (Char × List Char)
  | [] => none
  | c :: rest =>
    if c = '\u2028' ∨ c = '\u2029' then some (c, rest)
    else if c = '\r' ∧ rest.head? = some '\n' then some ('\n', rest.tail)
    else if isBreak c then some ('\n', rest)
    else none

theorem length_of_takeBreak? {s rest : List Char} {b : Char} (h : takeBreak? s = some (b, rest)) :
    rest.length < s.length := by
  cases s with
  | nil => simp [takeBreak?] at h
  | cons c tail =>
    simp only [takeBreak?] at h
    split at h
    · simp_all
    · split at h
      · have := List.length_tail (l := tail)
        simp only [Option.some.injEq, Prod.mk.injEq] at h
        rw [← h.2, List.length_cons]
        omega
      · split at h <;> simp_all

/-- Whether the three hyphens or points that separate documents stand here. -/
def isSeparator : List Char → Bool
  | a :: b :: c :: rest => a = b && b = c && (c = '-' || c = '.') && isBoundary rest
  | _ => false

/-- What a line break and the empty lines after it stand for in flowing text:
a space, or one break for every empty line. -/
def folded (lineBreak : Char) (emptyLines : List Char) : List Char :=
  if lineBreak ≠ '\n' then lineBreak :: emptyLines
  else if emptyLines.isEmpty then [' ']
  else emptyLines

structure Cursor where
  rest : List Char
  index : Nat := 0
  line : Nat := 0
  column : Nat := 0
  deriving Repr

namespace Cursor

def next (p : Cursor) : Cursor :=
  match p.rest with
  | [] => p
  | c :: rest =>
    let p := { p with rest, index := p.index + 1 }
    if isBreak c && !(c = '\r' && rest.head? = some '\n') then
      { p with line := p.line + 1, column := 0 }
    else { p with column := p.column + 1 }

def drop (p : Cursor) : Nat → Cursor
  | 0 => p
  | n + 1 => p.next.drop n

/-- The later place at which `rest` is left. -/
def moveTo (p : Cursor) (rest : List Char) : Cursor := p.drop (p.rest.length - rest.length)

def skip (p : Cursor) (isSkipped : Char → Bool) : Cursor :=
  p.drop (p.rest.takeWhile isSkipped).length

def isAtEnd (p : Cursor) : Bool := p.rest.isEmpty

/-- The place after what is skipped in a line and the comment behind it. -/
def skipComment (p : Cursor) (isSkipped : Char → Bool) : Cursor :=
  let p := p.skip isSkipped
  if p.rest.head? = some '#' then p.skip fun c => !isBreak c else p

/-- The place after a line that holds no more than a comment. -/
def endLine? (p : Cursor) : Option Cursor :=
  let p := p.skipComment isGap
  match takeBreak? p.rest with
  | some (_, rest) => some (p.moveTo rest)
  | none => if p.isAtEnd then some p else none

/-- The place after the end of a line that has no break. -/
def endLine (p : Cursor) : Cursor :=
  if p.column = 0 then p else { p with line := p.line + 1, column := 0 }

/-- Whether gaps from here on hold a tab in front of a column. -/
def hasTabBefore (p : Cursor) (column : Nat) : Bool :=
  ((p.rest.takeWhile isGap).take (column - p.column)).contains '\t'

end Cursor

end ContactCard.Yaml
