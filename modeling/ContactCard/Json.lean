import ContactCard.Value

/-!
# JSON text

A value as JSON. Only quotes, backslashes and control characters are escaped.
Without an indentation everything stands on one line; with one, every item has
a line of its own, and an indentation of zero or less only breaks the lines.
-/

namespace ContactCard.Json

def escapeChar (c : Char) : List Char :=
  if c = '"' then ['\\', '"']
  else if c = '\\' then ['\\', '\\']
  else if c = '\n' then ['\\', 'n']
  else if c = '\r' then ['\\', 'r']
  else if c = '\t' then ['\\', 't']
  else if c = '\x08' then ['\\', 'b']
  else if c = '\x0c' then ['\\', 'f']
  else if c.toNat < 0x20 then '\\' :: 'u' :: Text.Quoted.hex 4 c.toNat
  else [c]

def writeText (s : String) : String :=
  .ofList ('"' :: (s.toList.flatMap escapeChar ++ ['"']))

def writeFloat : Binary64 → String
  | .nan => "NaN"
  | .infinite negative => if negative then "-Infinity" else "Infinity"
  | x => x.write

def writeScalar : Scalar → String
  | .null => "null"
  | .bool b => if b then "true" else "false"
  | .int n => Integer.write n
  | .float x => writeFloat x
  | .nan => writeFloat .nan
  | .text s => writeText s
  | .bytes b => writeText (Text.quotedBytes b)
  | .path s => writeText s

/-- A key is always text; any other scalar stands for its JSON spelling. -/
def writeKey : Scalar → String
  | .text s => writeText s
  | other => writeText (writeScalar other)

/-- What stands between two items, and around them, at a nesting depth. -/
structure Layout where
  separator : String
  opening : String
  closing : String

def lineBreak (indent : Int) (depth : Nat) : String :=
  .ofList ('\n' :: List.replicate (indent.toNat * depth) ' ')

def layout (indent : Option Int) (depth : Nat) : Layout :=
  match indent with
  | none => ⟨", ", "", ""⟩
  | some n => ⟨"," ++ lineBreak n (depth + 1), lineBreak n (depth + 1), lineBreak n depth⟩

/-- Items between brackets, which close up around nothing. -/
def enclose (indent : Option Int) (depth : Nat) (left right : String) (items : List String) :
    String :=
  if items.isEmpty then left ++ right
  else
    let layout := layout indent depth
    left ++ layout.opening ++ layout.separator.intercalate items ++ layout.closing ++ right

mutual

def writeAt (indent : Option Int) (depth : Nat) : Value → String
  | .scalar s => writeScalar s
  | .list items => enclose indent depth "[" "]" (writeItems indent (depth + 1) items)
  | .mapping entries =>
    enclose indent depth "\x7b" "\x7d" (writeEntries indent (depth + 1) entries)
  | .pair first second =>
    enclose indent depth "[" "]"
      [writeAt indent (depth + 1) first, writeAt indent (depth + 1) second]

def writeItems (indent : Option Int) (depth : Nat) : List Value → List String
  | [] => []
  | item :: rest => writeAt indent depth item :: writeItems indent depth rest

def writeEntries (indent : Option Int) (depth : Nat) : List (Scalar × Value) → List String
  | [] => []
  | (key, value) :: rest =>
    (writeKey key ++ ": " ++ writeAt indent depth value) :: writeEntries indent depth rest

end

def write (indent : Option Int) (v : Value) : String := writeAt indent 0 v

/-! ## What cannot be written -/

/-- An indentation must be a signed number of 64 bits, and its spaces have to
fit into memory. Bytes and paths have no JSON form, and integers must not be too
long. -/
inductive WriteError
  | outOfRange
  | tooDeep
  | formless
  | longInteger
  deriving DecidableEq, Repr

def indentBound : Int := 9223372036854775808

/-- The greatest number of spaces, 2 to the power 40. -/
def deepestIndent : Int := 1099511627776

def indentError? : Option Int → Option WriteError
  | none => none
  | some n =>
    if n < -indentBound ∨ indentBound ≤ n then some .outOfRange
    else if deepestIndent < n then some .tooDeep
    else none

def scalarError? : Scalar → Option WriteError
  | .bytes _ | .path _ => some .formless
  | s => if s.isSpelled then none else some .longInteger

mutual

/-- Why a value cannot be written, if so. -/
def valueError? : Value → Option WriteError
  | .scalar s => scalarError? s
  | .list items => itemsError? items
  | .mapping entries => entriesError? entries
  | .pair first second => (valueError? first).or (valueError? second)

def itemsError? : List Value → Option WriteError
  | [] => none
  | item :: rest => (valueError? item).or (itemsError? rest)

def entriesError? : List (Scalar × Value) → Option WriteError
  | [] => none
  | (key, value) :: rest => ((scalarError? key).or (valueError? value)).or (entriesError? rest)

end

/-- A value as JSON with an indentation that can be any number. -/
def writeChecked (indent : Option Int) (v : Value) : Except WriteError String :=
  match (indentError? indent).or (valueError? v) with
  | some e => .error e
  | none => .ok (write indent v)

end ContactCard.Json
