import ContactCard.Card
import ContactCard.Log

/-!
# Properties by group

The properties of a card in buckets, one for each group, in the order in which
the groups first come up. Ungrouped properties are under `null`, and so is the
signature of the generator, which comes last. A list or mapping is no label for
a bucket.
-/

namespace ContactCard

/-- A group that a card cannot be written with, and what was logged before it
came up. -/
structure BadGroup where
  given : Value
  log : List LogEntry := []

/-- The label of the bucket that a property is in, if its group can be one. Groups of
loaded cards are no pairs, which stand in lists only. -/
def Property.label? (p : Property) : Option Scalar :=
  match p.group with
  | .scalar label => some label
  | _ => none

/-- The signature of the generator. -/
def generatorProperty : Property :=
  .ofText "X-GENERATOR" (some "vcardio v0.1.0 https://github.com/vcardio/vcardio")

abbrev Buckets := Keyed Scalar (List Property)

/-- Adds a property at the end of the bucket with a label. -/
def Buckets.place (buckets : Buckets) (label : Scalar) (p : Property) : Buckets :=
  Keyed.alter label (fun old => old.getD [] ++ [p]) buckets

def Buckets.ofProperties (properties : List Property) : Except BadGroup Buckets :=
  properties.foldlM (fun buckets p =>
    match p.label? with
    | some label => .ok (buckets.place label p)
    | none => .error { given := p.group }) []

def Card.buckets (card : Card) (addGenerator : Bool) : Except BadGroup Buckets := do
  let buckets ← Buckets.ofProperties card.properties
  return if addGenerator then buckets.place .null generatorProperty else buckets

end ContactCard
