import ContactCard.Yaml.Build
import ContactCard.Yaml.Token.Reading

/-!
# Reading nodes

A document is read from its tokens from left to right. An anchor names a node,
and a reference stands for the node of that name. What references stand for must
not be endless, nor too much altogether.
-/

namespace ContactCard.Yaml

/-- The node of an anchor, and how many nodes it is made of once it is complete,
itself among them. -/
structure Anchored where
  number : Nat
  size : Option Nat := none

/-- The tokens that are left, why there are no more of them, the nodes so far, those
named by anchors, and the stems that the handles of tags stand for. Of the `size`
nodes that the document has had so far, some stand there only by reference; a
reference to a node that is not complete has no end. -/
structure Input where
  tokens : List Token
  failure : ReadError
  nodes : Array Node := #[]
  anchors : List (String × Anchored) := []
  handles : List (String × Option String) := []
  size : Nat := 0
  referred : Nat := 0
  isEndless : Bool := false

abbrev NodeReader := StateT Input (Except ReadError)

/-- How the content of a node is introduced. A tag that is given may be no text. -/
structure NodeProperties where
  anchor : Option String := none
  tag : Option (Option String) := none

namespace NodeProperties

/-- The tag of a node where `usual` stands for none, and `unnamed` for a single
exclamation mark. -/
def tagOr (p : NodeProperties) (usual unnamed : Tag) : Except ReadError Tag :=
  match p.tag with
  | none => .ok usual
  | some (some "!") => .ok unnamed
  | some (some name) => .ok (.ofName name)
  | some none => .error .badTagText

def collectionTag (p : NodeProperties) (usual : Tag) : Except ReadError Tag := p.tagOr usual usual

def scalarTag (p : NodeProperties) (isPlain : Bool) (s : String) : Except ReadError Tag :=
  p.tagOr (if isPlain then .ofWord s else .text) (.ofWord s)

/-- The tag of a scalar that is not written. Even a tag that is left open makes it
text. -/
def missingTag (p : NodeProperties) : Except ReadError Tag := p.tagOr .null .text

def isGiven (p : NodeProperties) : Bool := p.anchor.isSome || p.tag.isSome

end NodeProperties

namespace NodeReader

def peek : NodeReader Token := do
  match (← get).tokens with
  | [] => throw (← get).failure
  | t :: _ => return t

def advance : NodeReader Unit := modify fun i => { i with tokens := i.tokens.tail }

/-- Whether one of some tokens comes next. -/
def comes (tokens : List Token) : NodeReader Bool := do return tokens.contains (← peek)

/-- Takes a token if it comes next. -/
def accept (t : Token) : NodeReader Bool := do
  if (← peek) = t then
    advance
    return true
  else return false

/-- Takes the comma between two items. -/
def expectItem : NodeReader Unit := do
  if ← accept .flowItem then return else throw .misplaced

/-- The name of a tag, whose handle must be known. -/
def tagName (handle suffix : Option String) : NodeReader (Option String) := do
  match handle with
  | none => return suffix
  | some handle =>
    match (← get).handles.lookup handle with
    | some stem => return do return (← stem) ++ (← suffix)
    | none => throw .misplaced

/-- An anchor and a tag in any order. -/
def properties : NodeReader NodeProperties := do
  match ← peek with
  | .anchor name =>
    advance
    match ← peek with
    | .tag handle suffix =>
      advance
      return ⟨some name, some (← tagName handle suffix)⟩
    | _ => return ⟨some name, none⟩
  | .tag handle suffix =>
    advance
    match ← peek with
    | .anchor name =>
      advance
      return ⟨some name, some (← tagName handle suffix)⟩
    | _ => return ⟨none, some (← tagName handle suffix)⟩
  | _ => return {}

/-- The number of a node that begins, and how many nodes there were before it. -/
structure Start where
  number : Nat
  size : Nat

/-- Begins a node with an anchor, which must be new. -/
def announce (anchor : Option String) : NodeReader Start := do
  let i ← get
  let start : Start := ⟨i.nodes.size, i.size⟩
  set { i with nodes := i.nodes.push .empty, size := i.size + 1 }
  if let some name := anchor then
    if (i.anchors.lookup name).isSome then throw .badReference
    modify fun i => { i with anchors := (name, ⟨start.number, none⟩) :: i.anchors }
  return start

/-- Completes a node that began at some place. -/
def complete (anchor : Option String) (start : Start) (node : Node) : NodeReader Nat := do
  modify fun i => { i with nodes := i.nodes.setIfInBounds start.number node }
  if let some name := anchor then
    modify fun i =>
      { i with anchors := (name, ⟨start.number, some (i.size - start.size)⟩) :: i.anchors }
  return start.number

/-- A node with its tag and content. -/
def whole (p : NodeProperties) (tag : Except ReadError Tag) (content : NodeReader Content) :
    NodeReader Nat := do
  let start ← announce p.anchor
  let tag ← tag
  complete p.anchor start ⟨tag, ← content⟩

/-- Nothing where a node could stand. -/
def nothing : NodeReader Nat := return (← announce none).number

/-- The node of an anchor. -/
def referredTo (name : String) : NodeReader Nat := do
  match (← get).anchors.lookup name with
  | none => throw .badReference
  | some ⟨number, none⟩ =>
    modify fun i => { i with isEndless := true }
    return number
  | some ⟨number, some size⟩ =>
    modify fun i => { i with size := i.size + size, referred := i.referred + size }
    return number

mutual

/-- A node. Block collections are read where `inBlock` allows them, and lists
without an indentation of their own where `inMapping` does. -/
def node (inBlock inMapping : Bool) : Nat → NodeReader Nat
  | 0 => throw .misplaced
  | fuel + 1 => do
    if let .reference name ← peek then
      advance
      return ← referredTo name
    let p ← properties
    match ← peek, inBlock, inMapping with
    | .blockItem, _, true => whole p (p.collectionTag .list) (.list <$> openItems fuel)
    | .scalar isPlain s, _, _ =>
      advance
      whole p (p.scalarTag isPlain s) (return .scalar s)
    | .flowListStart, _, _ =>
      advance
      whole p (p.collectionTag .list) (.list <$> flowItems true fuel)
    | .flowMappingStart, _, _ =>
      advance
      whole p (p.collectionTag .mapping) (.mapping <$> flowEntries true fuel)
    | .blockListStart, true, _ =>
      advance
      whole p (p.collectionTag .list) (.list <$> blockItems fuel)
    | .blockMappingStart, true, _ =>
      advance
      whole p (p.collectionTag .mapping) (.mapping <$> blockEntries fuel)
    | _, _, _ =>
      if p.isGiven then whole p p.missingTag (return .scalar "") else throw .misplaced

/-- A node, or nothing before one of some tokens. -/
def nodeBefore (inBlock inMapping : Bool) (ends : List Token) : Nat → NodeReader Nat
  | 0 => throw .misplaced
  | fuel + 1 => do
    if ← comes ends then nothing else node inBlock inMapping fuel

/-- What follows a key: a value behind its mark, or nothing. -/
def valueBefore (inBlock : Bool) (ends : List Token) : Nat → NodeReader Nat
  | 0 => throw .misplaced
  | fuel + 1 => do
    if ← accept .value then nodeBefore inBlock inBlock ends fuel else nothing

/-- The items of a block list. -/
def blockItems : Nat → NodeReader (List Nat)
  | 0 => throw .misplaced
  | fuel + 1 => do
    if ← accept .blockItem then
      let item ← nodeBefore true false [.blockItem, .blockEnd] fuel
      return item :: (← blockItems fuel)
    else if ← accept .blockEnd then return []
    else throw .misplaced

/-- The items of a list that is indented like the mapping it stands in. -/
def openItems : Nat → NodeReader (List Nat)
  | 0 => throw .misplaced
  | fuel + 1 => do
    if ← accept .blockItem then
      let item ← nodeBefore true false [.blockItem, .key, .value, .blockEnd] fuel
      return item :: (← openItems fuel)
    else return []

def blockEntries : Nat → NodeReader (List (Nat × Nat))
  | 0 => throw .misplaced
  | fuel + 1 => do
    if ← accept .key then
      let key ← nodeBefore true true [.key, .value, .blockEnd] fuel
      let value ← valueBefore true [.key, .value, .blockEnd] fuel
      return (key, value) :: (← blockEntries fuel)
    else if ← accept .blockEnd then return []
    else throw .misplaced

/-- The items of a flow list; a key among them begins a mapping of one entry. -/
def flowItems (isFirst : Bool) : Nat → NodeReader (List Nat)
  | 0 => throw .misplaced
  | fuel + 1 => do
    if ← accept .flowListEnd then return []
    if !isFirst then expectItem
    if ← accept .key then
      let item ← whole {} (.ok .mapping) do
        let key ← loneKey fuel
        let value ← valueBefore false [.flowItem, .flowListEnd] fuel
        return .mapping [(key, value)]
      return item :: (← flowItems false fuel)
    else if ← accept .flowListEnd then return []
    else
      let item ← node false false fuel
      return item :: (← flowItems false fuel)

/-- The key of the only entry of a mapping in a flow list. The mark that follows a
key that is left out goes with it. -/
def loneKey : Nat → NodeReader Nat
  | 0 => throw .misplaced
  | fuel + 1 => do
    if ← comes [.value, .flowItem, .flowListEnd] then
      advance
      nothing
    else node false false fuel

/-- The entries of a flow mapping; a node among them is a key without a value. -/
def flowEntries (isFirst : Bool) : Nat → NodeReader (List (Nat × Nat))
  | 0 => throw .misplaced
  | fuel + 1 => do
    if ← accept .flowMappingEnd then return []
    if !isFirst then expectItem
    if ← accept .key then
      let key ← nodeBefore false false [.value, .flowItem, .flowMappingEnd] fuel
      let value ← valueBefore false [.flowItem, .flowMappingEnd] fuel
      return (key, value) :: (← flowEntries false fuel)
    else if ← accept .flowMappingEnd then return []
    else
      let key ← node false false fuel
      return (key, ← nothing) :: (← flowEntries false fuel)

end

/-- The handles that every document knows. -/
def usualHandles : List (String × Option String) := [("!", some "!"), ("!!", some Tag.stem)]

/-- The versions of this notation that a directive may name. -/
def knownVersions : List (Nat × Nat) := [(1, 1), (1, 2)]

def isDirective : Token → Bool
  | .directive _ => true
  | _ => false

/-- Checks the directives in front of a document, and gives its handles. -/
def handles : List Token → Except ReadError (List (String × Option String))
  | tokens => do
    let directives := tokens.filterMap fun t =>
      match t with
      | .directive d => some d
      | _ => none
    let versions := directives.filterMap fun d =>
      match d with
      | .version major minor => some (major, minor)
      | _ => none
    let given := directives.filterMap fun d =>
      match d with
      | .handle handle stem => some (handle, stem)
      | _ => none
    if 1 < versions.length || !versions.all knownVersions.contains then throw .misplaced
    if !(given.map (·.1)).Nodup then throw .misplaced
    return given ++ usualHandles

/-- Reads up to the start of a document that is marked as such, and says whether
there is one. -/
def startDocument : NodeReader Bool := do
  modify fun i => { i with tokens := i.tokens.dropWhile (· = .documentEnd) }
  if ← comes [.streamEnd] then return false
  let front := (← get).tokens.takeWhile isDirective
  let known ← handles front
  modify fun i =>
    { i with tokens := i.tokens.drop front.length, handles := known, anchors := [] }
  if ← accept .documentStart then return true else throw .misplaced

/-- The only document of a text; none if the text is empty. -/
def document (fuel : Nat) : NodeReader (Option Nat) := do
  let first ← peek
  let root ← show NodeReader (Option Nat) from
    if isDirective first || first = .documentStart || first = .streamEnd then do
      if ← startDocument then
        let next ← peek
        if isDirective next || [.documentStart, .documentEnd, .streamEnd].contains next then
          return some (← nothing)
        else return some (← node true false fuel)
      else return none
    else do
      modify fun i => { i with handles := usualHandles }
      return some (← node true false fuel)
  if root.isSome then
    if ← startDocument then throw .badReference
  return root

/-- How many nodes may stand in a document by reference. -/
def maxReferred : Nat := 3000

/-- Checks what the references of a document stand for. -/
def checkReferences : NodeReader Unit := do
  let i ← get
  if i.isEndless || maxReferred < i.referred then throw .noMeaning

end NodeReader

/-- The nodes of the document in a text, if there is one. -/
def Graph.read (s : String) : Except ReadError (Option Graph) := do
  let tokens := Tokens.read s.toList
  let input : Input := { tokens := tokens.list, failure := tokens.failure?.getD .badToken }
  let reader : NodeReader (Option Nat) := do
    let root ← NodeReader.document (4 * tokens.list.length + 8)
    NodeReader.checkReferences
    return root
  let (root, input) ← reader.run input
  return root.map fun root => ⟨input.nodes, root⟩

/-- The value that a text stands for, null for a text with nothing in it. -/
def read (s : String) : Except ReadError Value := do
  match ← Graph.read s with
  | none => return .null
  | some g => g.value

end ContactCard.Yaml
