import ContactCard.Buckets
import ContactCard.Gate
import ContactCard.Log

/-!
# Records and documents

Writing a card gives a record together with its warnings, and a document
collects records. What becomes of each property is an outcome; the warnings of
a record are those of its outcomes in order, after the advice on the card.
-/

namespace ContactCard

/-- What cards are written for. -/
structure Target where
  version : Version := .v40
  mode : Mode := .rfc
  addGenerator : Bool := true
  deriving DecidableEq, Repr

/-- What becomes of a property: it is turned away, it asks to be skipped, or it
is written; the last two with the warnings raised on the way. -/
inductive Outcome (α : Type)
  | rejected (reason : Rejection)
  | skipped (name : String) (reason : SkipReason) (notes : List String)
  | written (output : α) (notes : List String)

namespace Outcome

variable {α : Type}

def output? : Outcome α → Option α
  | .written output _ => some output
  | _ => none

def warnings : Outcome α → List String
  | .rejected reason => [reason.message]
  | .skipped name _ notes => notes ++ [skipWarning name]
  | .written _ notes => notes

def log : Outcome α → List LogEntry
  | .skipped name reason _ => [.types .debug (name ++ " skipped: " ++ reason.message)]
  | _ => []

end Outcome

/-- The outcomes of a card's properties, bucket by bucket. -/
abbrev Sections (α : Type) := List (Scalar × List (Outcome α))

namespace Sections

variable {α : Type}

def outcomes (sections : Sections α) : List (Outcome α) := sections.flatMap (·.2)

end Sections

/-- What was written for a bucket. -/
def outputs {α : Type} (outcomes : List (Outcome α)) : List α := outcomes.filterMap Outcome.output?

/-- A card in written form. -/
structure Record (α : Type) where
  output : α
  warnings : List String
  log : List LogEntry := []

/-- The outcomes of a card under a writer of properties, which is told the
label of the bucket. -/
def Card.sections {α : Type} (card : Card) (target : Target)
    (write : Scalar → Property → Outcome α) : Except BadGroup (Sections α) := do
  let buckets ← card.buckets target.addGenerator
  return buckets.map fun bucket => (bucket.1, bucket.2.map (write bucket.1))

/-- The record that gathers the outcomes of a card. -/
def Card.gather {α β : Type} (card : Card) (target : Target) (assemble : Sections α → β)
    (sections : Sections α) : Record β where
  output := assemble sections
  warnings := card.nameWarnings target.version ++ sections.outcomes.flatMap Outcome.warnings
  log := sections.outcomes.flatMap Outcome.log

/-- What the log says of the `number`-th record: every warning, then their count. -/
def recordLog (format : String) (number : Nat) (warnings : List String) : List LogEntry :=
  let label := "vCard #" ++ toString number ++ ": "
  warnings.map (fun warning => .marshal .warning (label ++ warning))
    ++ [.marshal .debug (label ++ "added to " ++ format ++ " document ("
      ++ toString warnings.length ++ " warnings)")]

/-- What records cards one after another. A bad group ends the recording of a card
and leaves what has become of the state by then. -/
structure Recorder (σ α : Type) where
  start : Target → σ
  add : Card → EStateM BadGroup σ (Record α)
  size : σ → Nat
  warnings : σ → List String

/-- A way to write cards. -/
structure Format (α : Type) where
  name : String
  record : Target → Card → Except BadGroup (Record α)

/-- The records written so far, and the warnings of the last one. -/
structure Document (α : Type) where
  target : Target
  records : List α := []
  warnings : List String := []

namespace Document

variable {α : Type}

def size (d : Document α) : Nat := d.records.length

/-- Writes a card at the end. -/
def add (format : Format α) (card : Card) : EStateM BadGroup (Document α) (Record α) := do
  let record ← MonadExcept.ofExcept (format.record (← get).target card)
  modify fun d => { d with records := d.records ++ [record.output] }
  modify fun d => { d with warnings := record.warnings }
  return { record with
    log := record.log ++ recordLog format.name (← get).size record.warnings }

/-- The log of writing the whole document out. -/
def serializedLog (format : Format α) (d : Document α) : List LogEntry :=
  [.marshal .debug
    ("Serialized " ++ format.name ++ " document with " ++ toString d.size ++ " vCard(s)")]

end Document

/-- Records cards in a document. -/
def Format.recorder {α : Type} (format : Format α) : Recorder (Document α) α where
  start target := { target }
  add := Document.add format
  size := Document.size
  warnings := Document.warnings

end ContactCard
