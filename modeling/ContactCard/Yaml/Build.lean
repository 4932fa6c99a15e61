import ContactCard.Path
import ContactCard.Value
import ContactCard.Yaml.Key
import ContactCard.Yaml.Node
import ContactCard.Yaml.Scalar

/-!
# Building values

The value that the nodes of a document stand for. Collections are built from the
outside inwards: all that one collection holds is looked at before what those
inside of it hold. A mapping may take over the entries of others under a merge
key; those that it has itself count instead of them. The mark of a default value
becomes plain text as soon as it is a key of a mapping that is built.
-/

namespace ContactCard.Yaml

/-- What a node stands for, as far as it shows without the nodes inside of it.
A collection that is still to be built waits. -/
inductive Built
  | scalar (s : Scalar)
  | time
  | waiting
  | list (items : List Nat)
  | pairs (entries : List (Nat × Nat))
  | mapping (entries : List (Nat × Nat))
  | set
  deriving Repr

/-- Whether something can stand as a key. -/
def Built.isKey : Built → Bool
  | .scalar _ | .time => true
  | .waiting | .list _ | .pairs _ | .mapping _ | .set => false

/-- The nodes as they are by now, what has been built of them, and the collections
that wait, the last one first. -/
structure Builder where
  nodes : Array Node
  built : Array (Option Built)
  waiting : List Nat := []

abbrev Build := StateT Builder (Except ReadError)

namespace Build

def node (n : Nat) : Build Node := do return (← get).nodes[n]?.getD .empty

def setNode (n : Nat) (node : Node) : Build Unit :=
  modify fun b => { b with nodes := b.nodes.setIfInBounds n node }

def settle (n : Nat) (built : Built) : Build Unit :=
  modify fun b => { b with built := b.built.setIfInBounds n (some built) }

/-- How deep nodes can lie inside of one another. -/
def depth : Build Nat := do return (← get).nodes.size + 1

/-! ## Merging -/

/-- The texts among the keys of a mapping, which must differ. -/
def keyTexts (entries : List (Nat × Nat)) : Build (List String) :=
  entries.foldlM (fun texts entry => do
    let key ← node entry.1
    match key.text? with
    | some s => if texts.contains s then throw .noMeaning else return s :: texts
    | none => if key.tag = .text then throw .noText else return texts) []

/-- The entries that are taken over, without those whose key is one of some texts. -/
def withoutTexts (texts : List String) (entries : List (Nat × Nat)) :
    Build (List (Nat × Nat)) :=
  entries.filterM fun entry => do return !((← node entry.1).text?.any texts.contains)

mutual

/-- Puts the entries that a mapping takes over in front of its own. -/
def merge : Nat → Nat → Build Unit
  | 0, _ => throw .noMeaning
  | fuel + 1, n => do
    let mapping ← node n
    let texts ← keyTexts mapping.entries
    let (merged, own) ← mapping.entries.foldlM
      (fun (merged, own) entry => do
        let key ← node entry.1
        if key.tag = .merge then return (merged ++ (← mergedEntries fuel entry.2), own)
        if key.tag = .default then setNode entry.1 { key with tag := .text }
        return (merged, entry :: own))
      ([], [])
    setNode n { mapping with content := .mapping ((← withoutTexts texts merged) ++ own.reverse) }

/-- The entries that stand under a merge key: those of a mapping, or of several
in a list, of which the first counts most. -/
def mergedEntries : Nat → Nat → Build (List (Nat × Nat))
  | 0, _ => throw .noMeaning
  | fuel + 1, n => do
    match (← node n).content with
    | .mapping _ =>
      merge fuel n
      return (← node n).entries
    | .list items =>
      let merged ← items.mapM fun item => do
        match (← node item).content with
        | .mapping _ =>
          merge fuel item
          return (← node item).entries
        | .scalar _ | .list _ => throw .noMeaning
      return merged.reverse.flatten
    | .scalar _ => throw .noMeaning

end

/-! ## Building -/

/-- The text that a scalar is read from. For a mapping it stands under the default
key. -/
def scalarText : Nat → Nat → Build String
  | 0, _ => throw .noMeaning
  | fuel + 1, n => do
    match (← node n).content with
    | .scalar s => return s
    | .list _ => throw .noMeaning
    | .mapping entries =>
      match ← entries.findM? fun entry => do return (← node entry.1).tag = .default with
      | some (_, value) => scalarText fuel value
      | none => throw .noMeaning

/-- The path that parts stand for. -/
def path (isUsable : Bool) (parts : List Built) : Except ReadError Built := do
  let parts ← parts.mapM fun part =>
    match part with
    | .scalar (.text s) | .scalar (.path s) => .ok s
    | _ => .error ReadError.noText
  if isUsable then return .scalar (.path (Path.joined parts)) else throw .foreignPath

/-- What a node stands for; a collection is left waiting. -/
def begin : Nat → Nat → Build Built
  | 0, _ => throw .noMeaning
  | fuel + 1, n => do
    if let some built := (← get).built[n]?.join then return built
    let given ← node n
    let built ← show Build Built from
      match given.tag, given.content with
      | .list, _ | .pairs, _ | .set, _ | .mapping, _ => do
        modify fun b => { b with waiting := n :: b.waiting }
        return .waiting
      | .path isUsable, .list items => do path isUsable (← items.mapM (begin fuel))
      | .path _, _ => throw .noMeaning
      | .time, content => do
        let s ← scalarText (fuel + 1) n
        match content with
        | .scalar _ =>
          checkTime s
          return .time
        | .list _ | .mapping _ => throw .noText
      | tag, _ => do return .scalar (← tag.scalar (← scalarText (fuel + 1) n))
    settle n built
    return built

def look (n : Nat) : Build Built := do begin (← depth) n

/-- Builds a mapping, and gives its entries. -/
def entries (n : Nat) : Build (List (Nat × Nat)) := do
  merge (← depth) n
  let entries := (← node n).entries
  for (key, value) in entries do
    if !(← look key).isKey then throw .noMeaning
    let _ ← look value
  return entries

/-- The only entry of a mapping. -/
def loneEntry (n : Nat) : Build (Nat × Nat) := do
  match (← node n).content with
  | .mapping [(key, value)] =>
    let _ ← look key
    let _ ← look value
    return (key, value)
  | _ => throw .noMeaning

/-- Builds a collection. -/
def finish (n : Nat) : Build Unit := do
  let given ← node n
  match given.tag, given.content with
  | .list, .list items =>
    for item in items do
      let _ ← look item
    settle n (.list items)
  | .pairs, .list items => settle n (.pairs (← items.mapM loneEntry))
  | .mapping, .mapping _ => settle n (.mapping (← entries n))
  | .set, .mapping _ =>
    let _ ← entries n
    settle n .set
  | _, _ => throw .noMeaning

/-- Builds the collections that wait, and then those inside of them. -/
def finishAll : Nat → Build Unit
  | 0 => return
  | fuel + 1 => do
    match (← get).waiting.reverse with
    | [] => return
    | waiting =>
      modify fun b => { b with waiting := [] }
      waiting.forM finish
      finishAll fuel

end Build

/-! ## Values -/

/-- The scalar that a node stands for, if it does for one. -/
def scalar? (built : Array (Option Built)) (n : Nat) : Option Scalar :=
  match built[n]?.join with
  | some (.scalar s) => some s
  | _ => none

/-- The value of a node that has been built. Points in time and sets have none. -/
def assemble (built : Array (Option Built)) : Nat → Nat → Except ReadError Value
  | 0, _ => .error .noMeaning
  | fuel + 1, n =>
    match built[n]?.join with
    | none | some .waiting => .error .noMeaning
    | some .time | some .set => .error (.unsupported false)
    | some (.scalar s) => .ok (.scalar s)
    | some (.list items) => Value.list <$> items.mapM (assemble built fuel)
    | some (.pairs entries) => do
      let pairs ← entries.mapM fun (first, second) => do
        return .pair (← assemble built fuel first) (← assemble built fuel second)
      return .list pairs
    | some (.mapping entries) => do
      let keyed := Keyed.ofPairs (entries.map fun (key, value) => (scalar? built key, value))
      let values ← keyed.foldlM (fun values (key, value) =>
        match key with
        | none => .error .badKey
        | some key => do
          if !takesKey (values.map (·.1)) key then throw .badKey
          return values ++ [(key, ← assemble built fuel value)]) []
      return .mapping values

/-- The value that a document stands for. -/
def Graph.value (g : Graph) : Except ReadError Value := do
  let build : Build Unit := do
    let _ ← Build.look g.root
    Build.finishAll (← Build.depth)
  let (_, b) ← build.run { nodes := g.nodes, built := g.nodes.map fun _ => none }
  match b.built[g.root]?.join with
  | some .time | some .set => throw (.unsupported true)
  | _ => assemble b.built (g.nodes.size + 1) g.root

end ContactCard.Yaml
