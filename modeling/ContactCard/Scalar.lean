import ContactCard.Keyed
import ContactCard.Number.Shortest
import ContactCard.Text.Quoted

/-!
# Scalars

The values of a document that hold no other values. They are what can stand as
a key. Numbers of different kinds are the same key when they are equal, and a
truth value counts as the number zero or one. The not-a-number that documents
write is one and the same key everywhere; any other is no key's equal.
-/

namespace ContactCard

inductive Scalar
  | null
  | bool (b : Bool)
  | int (n : Int)
  | float (x : Binary64)
  | nan
  | text (s : String)
  | bytes (b : List UInt8)
  | path (s : String)
  deriving DecidableEq, Repr, Inhabited

namespace Scalar

def number? : Scalar → Option Number
  | .bool b => some (.ofInt (if b then 1 else 0))
  | .int n => some (.ofInt n)
  | .float x => some (.ofBinary64 x)
  | .nan => some .nan
  | .null | .text _ | .bytes _ | .path _ => none

def same (a b : Scalar) : Bool :=
  match a, b with
  | .null, .null | .nan, .nan => true
  | .text s, .text t | .path s, .path t => s == t
  | .bytes s, .bytes t => s == t
  | a, b =>
    match a.number?, b.number? with
    | some m, some n => m.compare? n == some .eq
    | _, _ => false

instance : Key Scalar := ⟨same⟩

/-- The plain spelling: text and paths as they are. -/
def spell : Scalar → String
  | .null => "None"
  | .bool b => if b then "True" else "False"
  | .int n => Integer.write n
  | .float x => x.write
  | .nan => Binary64.nan.write
  | .text s => s
  | .bytes b => Text.quotedBytes b
  | .path s => s

/-- The spelling inside a list or mapping: text in quotes. -/
def literal : Scalar → String
  | .text s => Text.quoted s
  | .path s => "PosixPath(" ++ Text.quoted s ++ ")"
  | other => other.spell

/-- Whether a scalar has a spelling: an integer must not be too long. -/
def isSpelled : Scalar → Bool
  | .int n => Integer.isWritable n
  | _ => true

/-- Empty text, zero, `false` and `null` do not hold. -/
def holds : Scalar → Bool
  | .null => false
  | .bool b => b
  | .int n => n != 0
  | .float (.finite _ significand _) => significand != 0
  | .float _ | .nan => true
  | .text s => s != ""
  | .bytes b => !b.isEmpty
  | .path _ => true

/-- The order of two keys of one kind, text by code points. -/
def compare? : Scalar → Scalar → Option Ordering
  | .text s, .text t => some (compare s t)
  | .bytes s, .bytes t => some (compare s t)
  | a, b => do (← a.number?).compare? (← b.number?)

def isText : Scalar → Bool
  | .text _ => true
  | _ => false

def isBytes : Scalar → Bool
  | .bytes _ => true
  | _ => false

/-- The keys in ascending order. Text, bytes and numbers do not mix, and `null` can
only stand alone. -/
def sorted? (keys : List Scalar) : Option (List Scalar) :=
  if keys.length ≤ 1 || keys.all isText || keys.all isBytes
      || keys.all fun key => key.number?.isSome then
    some (keys.mergeSort fun a b => b.compare? a != some .lt)
  else none

end Scalar

end ContactCard
