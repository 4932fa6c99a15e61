import ContactCard.Parameters.Line
import ContactCard.Record

/-!
# Plain text

A card as lines: a beginning, the version, a line for every property that is
written, and an end, each closed by CR LF.
-/

namespace ContactCard.PlainText

/-- The group in front of a property's name, if it says anything. -/
def groupLead (label : Scalar) : String := if label.holds then label.spell ++ "." else ""

def line (label : Scalar) (name : String) (t : Parameters) (value : String) : String :=
  groupLead label ++ Text.upper name ++ t.line ++ ":" ++ value

def writeProperty (target : Target) (card : Card) (label : Scalar) (p : Property) :
    Outcome String :=
  match card.reject? target.version p with
  | some reason => .rejected reason
  | none =>
    let t := p.writtenParameters target.version target.mode card.size
    let value := p.text target.mode
    let notes := t.warnings ++ value.warnings
    match value.result with
    | .error reason => .skipped p.name reason notes
    | .ok s => .written (line label p.name t.result s) notes

def block (version : Version) (lines : List String) : String :=
  let framed := "BEGIN:VCARD" :: ("VERSION:" ++ version.number) :: (lines ++ ["END:VCARD"])
  String.join (framed.map fun s => s ++ "\r\n")

def assemble (version : Version) (sections : Sections String) : String :=
  block version (outputs sections.outcomes)

/-- The first label in front of a line that has no spelling, and the log up to that
line. -/
def badGroup? : Sections String → Option BadGroup
  | [] => none
  | (label, outcomes) :: rest =>
    if label.isSpelled || (outputs outcomes).isEmpty then
      (badGroup? rest).map fun e => { e with log := outcomes.flatMap Outcome.log ++ e.log }
    else
      let before := outcomes.takeWhile fun outcome => outcome.output?.isNone
      some { given := .scalar label, log := before.flatMap Outcome.log }

def record (target : Target) (card : Card) : Except BadGroup (Record String) := do
  let sections ← card.sections target (writeProperty target card)
  match badGroup? sections with
  | some e => throw e
  | none => return card.gather target (assemble target.version) sections

/-- A stream of records, with their number and the warnings of the last one. -/
structure Writer where
  target : Target
  stream : String := ""
  count : Nat := 0
  warnings : List String := []

def formatName : String := "text"

/-- Writes a card at the end of the stream. -/
def write (card : Card) : EStateM BadGroup Writer (Record String) := do
  let record ← MonadExcept.ofExcept (record (← get).target card)
  modify fun w => { w with stream := w.stream ++ record.output }
  modify fun w => { w with count := w.count + 1 }
  modify fun w => { w with warnings := record.warnings }
  return { record with log := record.log ++ recordLog formatName (← get).count record.warnings }

def recorder : Recorder Writer String where
  start target := { target }
  add := write
  size := Writer.count
  warnings := Writer.warnings

end ContactCard.PlainText
