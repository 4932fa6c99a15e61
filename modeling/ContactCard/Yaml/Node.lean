import ContactCard.Yaml.Tag

/-!
# Nodes

The nodes of a document before their tags are taken at their word. A node names
those inside of it by number, so that several can hold the same one.
-/

namespace ContactCard.Yaml

inductive Content
  | scalar (text : String)
  | list (items : List Nat)
  | mapping (entries : List (Nat × Nat))
  deriving DecidableEq, Repr

structure Node where
  tag : Tag
  content : Content
  deriving DecidableEq, Repr

namespace Node

/-- What stands where nothing is written. -/
def empty : Node := ⟨.null, .scalar ""⟩

def entries (node : Node) : List (Nat × Nat) :=
  match node.content with
  | .mapping entries => entries
  | .scalar _ | .list _ => []

/-- The text of a scalar whose tag is that of text. -/
def text? (node : Node) : Option String :=
  match node.tag, node.content with
  | .text, .scalar s => some s
  | _, _ => none

end Node

/-- The nodes of a document by number, and the number of the outermost one. -/
structure Graph where
  nodes : Array Node
  root : Nat

end ContactCard.Yaml
