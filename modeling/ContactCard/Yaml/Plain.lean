import ContactCard.Yaml.Cursor
import ContactCard.Yaml.Error

/-!
# Plain text

Text without quotes: words with gaps or line breaks between them. It ends before
a comment, at a colon that ends a word, and at a line that is not indented
deeply enough. In a flow collection it ends at the marks of the collection too,
and only the indentation of tabs counts.
-/

namespace ContactCard.Yaml

/-- The marks that end plain text in a flow collection. -/
def flowMarks : List Char := [',', '[', ']', '\x7b', '\x7d']

/-- The word that a text begins with. In a flow collection no colon can stand
before a mark. -/
def plainWord (flow : Bool) : List Char → Except ReadError (List Char)
  | [] => .ok []
  | c :: rest =>
    if flow && c = ':' && rest.head?.any fun d => d = '?' || flowMarks.contains d then
      .error .badToken
    else if isGap c || isBreak c || (c = ':' && isBoundary rest) || (flow && flowMarks.contains c)
    then .ok []
    else (plainWord flow rest).map (c :: ·)

/-- What stands between two words: the text it counts for, where it ends, and
whether a line ends in it. -/
structure Gap where
  text : List Char
  after : Cursor
  endsLine : Bool

namespace Cursor

/-- The breaks of the empty lines from here on and the place after the gap in
front of the first line that is not empty. No tab may stand before the column
`indent`. -/
def emptyLines (p : Cursor) (indent : Nat) : Nat → Except ReadError (List Char × Cursor)
  | 0 => .ok ([], p)
  | fuel + 1 =>
    if p.hasTabBefore indent then .error .badToken
    else
      let p := p.skip isGap
      match takeBreak? p.rest with
      | none => .ok ([], p)
      | some (b, rest) =>
        ((p.moveTo rest).emptyLines indent fuel).map fun found => (b :: found.1, found.2)

def gap (p : Cursor) (indent : Nat) : Except ReadError Gap :=
  let gaps := p.rest.takeWhile isGap
  let p := p.drop gaps.length
  match takeBreak? p.rest with
  | none => .ok ⟨gaps, p, false⟩
  | some (b, rest) =>
    ((p.moveTo rest).emptyLines indent (rest.length + 1)).map fun found =>
      ⟨folded b found.1, found.2, true⟩

/-- Whether plain text cannot go on here, at the start of a word. -/
def endsPlain (p : Cursor) (flow : Bool) (indent : Nat) : Bool :=
  (!flow && p.column < indent) || (p.column = 0 && isSeparator p.rest) || p.rest.head? = some '#'

/-- Plain text from here on, where it ends, and whether a line ends after it. -/
def plainWithin (p : Cursor) (flow : Bool) (indent : Nat) :
    Nat → Except ReadError (List Char × Cursor × Bool)
  | 0 => .ok ([], p, false)
  | fuel + 1 => do
    let word ← plainWord flow p.rest
    let gap ← (p.drop word.length).gap indent
    if gap.text.isEmpty || gap.after.endsPlain flow indent then
      return (word, gap.after, gap.endsLine)
    else if (← plainWord flow gap.after.rest).isEmpty then return (word, gap.after, gap.endsLine)
    else
      let (more, after) ← gap.after.plainWithin flow indent fuel
      return (word ++ gap.text ++ more, after)

def plain (p : Cursor) (flow : Bool) (indent : Nat) :
    Except ReadError (List Char × Cursor × Bool) :=
  p.plainWithin flow indent (p.rest.length + 1)

end Cursor

end ContactCard.Yaml
