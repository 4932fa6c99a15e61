import ContactCard.Session.Template.Part

/-!
# Path templates

The path of a log may hold fields in braces, of which only `time` is known: it
stands for the time at which the log begins, or for a part of it. A doubled brace
stands for one.
-/

namespace ContactCard.Template

/-- A field: its name, how it is converted, and how it is to be written. -/
structure Field where
  name : List Char
  conversion : Option Char := none
  layout : List Char := []

/-- The name of a field and what follows it. Inside of brackets every character
belongs to the name. -/
def fieldName (inBrackets : Bool) : List Char → Except TemplateError (List Char × List Char)
  | [] => .error .malformed
  | c :: rest =>
    if !inBrackets && c = '\x7b' then .error .malformed
    else if !inBrackets && (c = '\x7d' || c = ':' || c = '!') then .ok ([], c :: rest)
    else
      let inBrackets := if inBrackets then c != ']' else c = '['
      (fieldName inBrackets rest).map fun found => (c :: found.1, found.2)

/-- Text up to the brace that closes it, with `depth` others open inside, and
what follows the brace. -/
def fieldLayout (depth : Nat) : List Char → Except TemplateError (List Char × List Char)
  | [] => .error .malformed
  | c :: rest =>
    if c = '\x7d' ∧ depth = 0 then .ok ([], rest)
    else
      let depth := if c = '\x7b' then depth + 1 else if c = '\x7d' then depth - 1 else depth
      (fieldLayout depth rest).map fun found => (c :: found.1, found.2)

/-- A field behind its opening brace, and what follows it. -/
def Field.read (s : List Char) : Except TemplateError (Field × List Char) := do
  let (name, rest) ← fieldName false s
  match rest with
  | '\x7d' :: rest => return ({ name }, rest)
  | '!' :: c :: '\x7d' :: rest => return ({ name, conversion := some c }, rest)
  | '!' :: c :: ':' :: rest =>
    let (layout, rest) ← fieldLayout 0 rest
    return ({ name, conversion := some c, layout }, rest)
  | ':' :: rest =>
    let (layout, rest) ← fieldLayout 0 rest
    return ({ name, layout }, rest)
  | _ => throw .malformed

/-- The part that a field stands for. A field that is named by a number or not at
all is malformed. -/
def Field.part (m : Moment) (f : Field) : Except TemplateError Part := do
  let stem := f.name.takeWhile fun c => c ≠ '.' ∧ c ≠ '['
  if stem.all fun c => (Text.digitValue? c).isSome then throw .malformed
  if stem ≠ "time".toList then throw .unknownField
  let part ← (Part.time m).follow (f.name.drop stem.length)
  match f.conversion with
  | none => return part
  | some 's' => return .text (.ofList part.shown)
  | some 'r' | some 'a' => return .text (.ofList part.quoted)
  | some _ => throw .malformed

/-- A template with the time put in. A layout may hold fields of its own, but
not in their layouts. -/
def expandWithin (m : Moment) (depth : Nat) : Nat → List Char →
    Except TemplateError (List Char)
  | 0, _ => .error .malformed
  | fuel + 1, s =>
    match s with
    | [] => .ok []
    | c :: rest =>
      if c = '\x7b' ∧ rest.head? ≠ some '\x7b' then do
        let (field, rest) ← Field.read rest
        let part ← field.part m
        let layout ←
          if !field.layout.contains '\x7b' then pure field.layout
          else if depth = 0 then throw .malformed
          else expandWithin m (depth - 1) fuel field.layout
        let written ← part.write layout
        return written ++ (← expandWithin m depth fuel rest)
      else if c = '\x7b' ∨ c = '\x7d' then
        if rest.head? = some c then (expandWithin m depth fuel rest.tail).map (c :: ·)
        else .error .malformed
      else (expandWithin m depth fuel rest).map (c :: ·)

def expand (m : Moment) (template : String) : Except TemplateError String :=
  (expandWithin m 1 (template.length + 1) template.toList).map String.ofList

end ContactCard.Template
