import ContactCard.Yaml.Node.Reading

/-!
# Roots of loaded documents

What a loaded document may be. An empty document is an empty mapping. Text is
read once more, and is a mapping with itself as the only key if it stands for
text again; other scalars are refused. Keys must not be `null`, and an integer
and its spelling cannot be keys of one mapping. Every not-a-number is the one that
documents write. What a reference to another place stands for is left open: values
are taken as they are meant by a resolver, of which only so much is known that it
finds nothing to resolve in values without references.
-/

namespace ContactCard.Yaml

inductive RootError
  | scalarRoot (given : Value)
  | wordRoot
  | unreadable (e : ReadError)
  | badKeys
  | unresolved
  deriving Repr

def hasReferenceMark : List Char → Bool
  | '$' :: '\x7b' :: _ => true
  | _ :: rest => hasReferenceMark rest
  | [] => false

mutual

/-- Whether some text in a value refers to another place. -/
def refers : Value → Bool
  | .scalar (.text s) => hasReferenceMark s.toList
  | .scalar _ => false
  | .list items => itemsRefer items
  | .mapping entries => entriesRefer entries
  | .pair first second => refers first || refers second

def itemsRefer : List Value → Bool
  | [] => false
  | item :: rest => refers item || itemsRefer rest

def entriesRefer : List (Scalar × Value) → Bool
  | [] => false
  | (_, value) :: rest => refers value || entriesRefer rest

end

/-- Whether a mapping takes some of its keys not. -/
def areBadKeys (keys : List Scalar) : Bool := keys.any fun key => !takesKey keys key

mutual

/-- Whether some mapping in a value has bad keys. -/
def hasBadKeys : Value → Bool
  | .scalar _ => false
  | .list items => itemsHaveBadKeys items
  | .mapping entries => areBadKeys (entries.map (·.1)) || entriesHaveBadKeys entries
  | .pair first second => hasBadKeys first || hasBadKeys second

def itemsHaveBadKeys : List Value → Bool
  | [] => false
  | item :: rest => hasBadKeys item || itemsHaveBadKeys rest

def entriesHaveBadKeys : List (Scalar × Value) → Bool
  | [] => false
  | (_, value) :: rest => hasBadKeys value || entriesHaveBadKeys rest

end

/-- A scalar as a document writes it. -/
def writtenScalar : Scalar → Scalar
  | .float .nan => .nan
  | s => s

mutual

/-- A value as a document writes it. -/
def written : Value → Value
  | .scalar s => .scalar (writtenScalar s)
  | .list items => .list (writtenItems items)
  | .mapping entries => .ofPairs (writtenEntries entries)
  | .pair first second => .pair (written first) (written second)

def writtenItems : List Value → List Value
  | [] => []
  | item :: rest => written item :: writtenItems rest

def writtenEntries : List (Scalar × Value) → List (Scalar × Value)
  | [] => []
  | (key, value) :: rest => (writtenScalar key, written value) :: writtenEntries rest

end

def withGoodKeys (v : Value) : Except RootError Value :=
  if hasBadKeys v then .error .badKeys else .ok v

/-- The root of a document as a list or mapping. -/
def root : Value → Except RootError Value
  | .null => .ok (.mapping [])
  | .text s =>
    match read s with
    | .error (.unsupported true) => .error .wordRoot
    | .error e => .error (.unreadable e)
    | .ok .null => .ok (.mapping [])
    | .ok (.text word) => .ok (.mapping [(.text word, .null)])
    | .ok (.scalar _) => .error .wordRoot
    | .ok v => withGoodKeys v
  | .scalar s => .error (.scalarRoot (.scalar s))
  | v => withGoodKeys (written v)

/-! ## Pending values -/

/-- The text that stands for a value still to be given. -/
def pendingWord : String := "???"

/-- The text that backslashes and the pending word mean: the first backslash
only keeps the word from being taken for a pending value. -/
def unescapePending (s : String) : String :=
  match s.toList with
  | '\\' :: rest => if rest.dropWhile (· = '\\') = pendingWord.toList then .ofList rest else s
  | _ => s

mutual

/-- A value with every text in it as it is meant. -/
def settled : Value → Value
  | .scalar (.text s) => .text (unescapePending s)
  | .scalar s => .scalar s
  | .list items => .list (settledItems items)
  | .mapping entries => .mapping (settledEntries entries)
  | .pair first second => .pair (settled first) (settled second)

def settledItems : List Value → List Value
  | [] => []
  | item :: rest => settled item :: settledItems rest

def settledEntries : List (Scalar × Value) → List (Scalar × Value)
  | [] => []
  | (key, value) :: rest => (key, settled value) :: settledEntries rest

end

/-! ## References -/

/-- A way to resolve references, of which some may name nothing. Values without
references are taken as they are meant. -/
structure Resolver where
  resolve : Value → Option Value
  resolve_of_not_refers : ∀ v, refers v = false → resolve v = some (settled v)

namespace Resolver

/-- Every reference names nothing. -/
def barren : Resolver where
  resolve v := if refers v then none else some (settled v)
  resolve_of_not_refers v hv := by rw [hv]; rfl

/-- A value with all references resolved. -/
def resolved (r : Resolver) (v : Value) : Except RootError Value :=
  match r.resolve v with
  | some meant => .ok meant
  | none => .error .unresolved

end Resolver

end ContactCard.Yaml
