import ContactCard.Yaml.Block
import ContactCard.Yaml.Label
import ContactCard.Yaml.Plain
import ContactCard.Yaml.Quoted

/-!
# Reading tokens

A text is read token by token. Whether a scalar is a key shows only at the
colon after it, so a token that may begin a key is remembered until its line is
over, and the tokens for the key are put in front of it when the colon comes.
-/

namespace ContactCard.Yaml

/-- A token that may begin a key. It is required to be one where a block mapping
cannot go on otherwise. -/
structure PossibleKey where
  token : Nat
  isRequired : Bool
  index : Nat
  line : Nat
  column : Nat

/-- What has been read so far: the tokens, how many flow collections are open,
the columns of the open block collections from the inside out, whether a key
may begin here, and the possible keys by the flow collection they stand in. -/
structure Reading where
  place : Cursor
  tokens : Array Token := #[]
  depth : Nat := 0
  blocks : List Nat := []
  allowsKey : Bool := true
  keys : List (Nat × PossibleKey) := []

namespace Reading

/-- The column that continues the innermost block collection. -/
def indent (r : Reading) : Int :=
  match r.blocks with
  | [] => -1
  | column :: _ => column

def isFlow (r : Reading) : Bool := r.depth != 0

def push (r : Reading) (t : Token) : Reading := { r with tokens := r.tokens.push t }

/-- Puts a token at an earlier place. -/
def putAt (r : Reading) (i : Nat) (t : Token) : Reading :=
  { r with tokens := r.tokens.insertIdxIfInBounds i t }

def advance (r : Reading) (n : Nat) : Reading := { r with place := r.place.drop n }

def moveTo (r : Reading) (rest : List Char) : Reading := { r with place := r.place.moveTo rest }

/-- A token of `n` characters. -/
def take (r : Reading) (n : Nat) (t : Token) : Reading := (r.push t).advance n

/-- A key stands in one line, and its colon comes within 1024 characters. -/
def isStale (r : Reading) (k : PossibleKey) : Bool :=
  k.line != r.place.line || 1024 < r.place.index - k.index

def withoutStaleKeys (r : Reading) : Reading :=
  { r with keys := r.keys.filter fun entry => !r.isStale entry.2 }

/-- Whether a colon is missing behind a required key. -/
def lacksColon (r : Reading) : Bool :=
  r.keys.any fun entry => r.isStale entry.2 && entry.2.isRequired

def dropStaleKeys (r : Reading) : Except ReadError Reading :=
  if r.lacksColon then .error .badToken else .ok r.withoutStaleKeys

def key? (r : Reading) : Option PossibleKey := r.keys.lookup r.depth

def withoutKey (r : Reading) : Reading :=
  { r with keys := r.keys.filter fun entry => entry.1 != r.depth }

/-- Gives up the possible key of the innermost collection. -/
def dropKey (r : Reading) : Except ReadError Reading :=
  if r.key?.any PossibleKey.isRequired then .error .badToken else .ok r.withoutKey

/-- Remembers that the next token may begin a key. -/
def markKey (r : Reading) : Except ReadError Reading := do
  if r.allowsKey then
    let r ← r.dropKey
    let key : PossibleKey := {
      token := r.tokens.size
      isRequired := !r.isFlow && r.indent = r.place.column
      index := r.place.index
      line := r.place.line
      column := r.place.column }
    return { r with keys := (r.depth, key) :: r.keys }
  else return r

/-- Ends the block collections that are indented more deeply than a column. -/
def closeBlocks (r : Reading) (column : Int) : Reading :=
  if r.isFlow then r
  else
    let closed := r.blocks.takeWhile fun (block : Nat) => column < block
    { r with
      tokens := r.tokens ++ Array.replicate closed.length Token.blockEnd
      blocks := r.blocks.drop closed.length }

/-- Begins a block collection at a column, unless one is there already; its
token goes to the place `i`. -/
def openBlock (r : Reading) (column i : Nat) (t : Token) : Reading :=
  if r.indent < column then { r.putAt i t with blocks := column :: r.blocks } else r

/-- Whether a character may stand between two tokens of a line. Where a key may
begin in a block, a tab could pass for indentation. -/
def isSkipped (r : Reading) (c : Char) : Bool :=
  c = ' ' || (c = '\t' && (r.isFlow || !r.allowsKey))

/-- Skips gaps, comments and line breaks, and a byte order mark that begins a
line. A new line allows a key. -/
def skipToToken (r : Reading) : Nat → Reading
  | 0 => r
  | fuel + 1 =>
    let place :=
      if r.place.column = 0 && r.place.rest.head? = some '\ufeff' then r.place.next else r.place
    let r := { r with place := place.skipComment r.isSkipped }
    match takeBreak? r.place.rest with
    | none => r
    | some (_, rest) =>
      skipToToken { r.moveTo rest with allowsKey := r.allowsKey || !r.isFlow } fuel

/-- The end of the text, which ends its last line. -/
def finish (r : Reading) : Except ReadError Reading := do
  let r ← (r.closeBlocks (-1)).dropKey
  return { r with allowsKey := false, place := r.place.endLine }.push .streamEnd

def takeSeparator (r : Reading) (t : Token) : Except ReadError Reading := do
  let r ← (r.closeBlocks (-1)).dropKey
  return { r with allowsKey := false }.take 3 t

def takeDirective (r : Reading) : Except ReadError Reading := do
  let r ← (r.closeBlocks (-1)).dropKey
  let (d, rest) ← directive r.place.rest.tail
  match (r.moveTo rest).place.endLine? with
  | some place => return { r with allowsKey := false, place }.push (.directive d)
  | none => throw .badToken

def openFlow (r : Reading) (t : Token) : Except ReadError Reading := do
  let r ← r.markKey
  return { r with depth := r.depth + 1, allowsKey := true }.take 1 t

def closeFlow (r : Reading) (t : Token) : Except ReadError Reading := do
  let r ← r.dropKey
  return { r with depth := r.depth - 1, allowsKey := false }.take 1 t

def takeFlowItem (r : Reading) : Except ReadError Reading := do
  let r ← r.dropKey
  return { r with allowsKey := true }.take 1 .flowItem

def takeBlockItem (r : Reading) : Except ReadError Reading := do
  if !r.isFlow && !r.allowsKey then throw .badToken
  let r := if r.isFlow then r else r.openBlock r.place.column r.tokens.size .blockListStart
  let r ← r.dropKey
  return { r with allowsKey := true }.take 1 .blockItem

def takeKey (r : Reading) : Except ReadError Reading := do
  if !r.isFlow && !r.allowsKey then throw .badToken
  let r := if r.isFlow then r else r.openBlock r.place.column r.tokens.size .blockMappingStart
  let r ← r.dropKey
  return { r with allowsKey := !r.isFlow }.take 1 .key

def takeValue (r : Reading) : Except ReadError Reading := do
  match r.key? with
  | some k =>
    let r := { r.withoutKey with allowsKey := false }.putAt k.token .key
    let r := if r.isFlow then r else r.openBlock k.column k.token .blockMappingStart
    return r.take 1 .value
  | none =>
    if !r.isFlow && !r.allowsKey then throw .badToken
    let r := if r.isFlow then r else r.openBlock r.place.column r.tokens.size .blockMappingStart
    return { r with allowsKey := !r.isFlow }.take 1 .value

/-- A token that may begin a key, after which no key can begin. -/
def takeWord (r : Reading) (read : List Char → Except ReadError (Token × List Char)) :
    Except ReadError Reading := do
  let r ← r.markKey
  let (t, rest) ← read r.place.rest
  return { (r.moveTo rest).push t with allowsKey := false }

def takeQuoted (r : Reading) (double : Bool) : Except ReadError Reading :=
  r.takeWord fun s => do
    let (text, rest) ← quoted double s.tail
    return (.scalar false (.ofList text), rest)

def takePlain (r : Reading) : Except ReadError Reading := do
  let r ← r.markKey
  let (text, place, endsLine) ← r.place.plain r.isFlow (r.indent + 1).toNat
  return { r with place, allowsKey := endsLine }.push (.scalar true (.ofList text))

def takeBlock (r : Reading) (isFolded : Bool) : Except ReadError Reading := do
  let r ← r.dropKey
  let (text, place) ← r.place.next.block isFolded (r.indent + 1).toNat
  return { r with place, allowsKey := true }.push (.scalar false (.ofList text))

/-- Marks that cannot begin plain text. -/
def marks : List Char := "-?:,[]\x7b\x7d#&*!|>'\"%@\x60".toList

/-- Whether plain text begins with a character before `rest`. -/
def beginsPlain (r : Reading) (c : Char) (rest : List Char) : Bool :=
  if isGap c || isBreak c then false
  else if marks.contains c then
    !isBoundary rest && (c = '-' || (!r.isFlow && (c = '?' || c = ':')))
  else true

/-- The next token, which begins with a character before `rest`. -/
def takeToken (r : Reading) (c : Char) (rest : List Char) : Except ReadError Reading :=
  let isLineStart := r.place.column = 0
  if c = '%' ∧ isLineStart then r.takeDirective
  else if c = '-' ∧ isLineStart ∧ isSeparator r.place.rest then r.takeSeparator .documentStart
  else if c = '.' ∧ isLineStart ∧ isSeparator r.place.rest then r.takeSeparator .documentEnd
  else if c = '[' then r.openFlow .flowListStart
  else if c = '\x7b' then r.openFlow .flowMappingStart
  else if c = ']' then r.closeFlow .flowListEnd
  else if c = '\x7d' then r.closeFlow .flowMappingEnd
  else if c = ',' then r.takeFlowItem
  else if c = '-' ∧ isBoundary rest then r.takeBlockItem
  else if c = '?' ∧ (r.isFlow ∨ isBoundary rest) then r.takeKey
  else if c = ':' ∧ (r.isFlow ∨ isBoundary rest) then r.takeValue
  else if c = '*' then
    r.takeWord fun s => do
      let (name, rest) ← anchorName s.tail
      return (.reference name, rest)
  else if c = '&' then
    r.takeWord fun s => do
      let (name, rest) ← anchorName s.tail
      return (.anchor name, rest)
  else if c = '!' then r.takeWord (tag r.isFlow)
  else if c = '|' ∧ !r.isFlow then r.takeBlock false
  else if c = '>' ∧ !r.isFlow then r.takeBlock true
  else if c = '\'' then r.takeQuoted false
  else if c = '"' then r.takeQuoted true
  else if r.beginsPlain c rest then r.takePlain
  else .error .badToken

/-- Reads on by one token, and the ends of block collections before it. -/
def step (r : Reading) : Except ReadError Reading := do
  let r ← (r.skipToToken (r.place.rest.length + 1)).dropStaleKeys
  let r := r.closeBlocks r.place.column
  match r.place.rest with
  | [] => r.finish
  | c :: rest => r.takeToken c rest

/-- The tokens that no colon can change any more. -/
def settled (r : Reading) : List Token :=
  r.withoutStaleKeys.keys.foldl (fun tokens entry => tokens.take entry.2.token) r.tokens.toList

end Reading

/-- The tokens of a text; where it cannot be read on, those before and why. -/
structure Tokens where
  list : List Token
  failure? : Option ReadError

def Tokens.readWithin : Nat → Reading → Tokens
  | 0, r => ⟨r.settled, some .badToken⟩
  | fuel + 1, r =>
    match r.step with
    | .error e => ⟨r.settled, some e⟩
    | .ok next =>
      if next.lacksColon then ⟨r.settled, some .badToken⟩
      else if next.tokens.back? = some .streamEnd then ⟨next.tokens.toList, none⟩
      else readWithin fuel next

/-- The characters that a document may hold. -/
def isLegal (c : Char) : Bool :=
  let n := c.toNat
  n = 0x9 || n = 0xa || n = 0xd || (0x20 ≤ n && n ≤ 0x7e) || n = 0x85 || (0xa0 ≤ n && n ≤ 0xd7ff)
    || (0xe000 ≤ n && n ≤ 0xfffd) || 0x10000 ≤ n

/-- The tokens of a text. A byte order mark in front does not count. -/
def Tokens.read (s : List Char) : Tokens :=
  if s.all isLegal then
    let rest := if s.head? = some '\ufeff' then s.tail else s
    readWithin (s.length + 2) { place := { rest } }
  else ⟨[], some .illegalCharacter⟩

end ContactCard.Yaml
