import ContactCard.Number.Decimal
import ContactCard.Scalar
import ContactCard.Text.Case
import ContactCard.Text.Pieces
import ContactCard.Yaml.Error
import ContactCard.Yaml.Word

/-!
# Numbers in text

The number that a text stands for which is said to be one. Underscores do not
count. Of parts with colons between them, each weighs sixty times as much as the
next one.
-/

namespace ContactCard.Yaml

def withoutUnderscores (s : List Char) : List Char := s.filter (· ≠ '_')

/-! ## Integers -/

def integerIn (base : Nat) (s : List Char) : Except ReadError Int :=
  (Integer.parse base s).mapError (.noInteger base (.ofList s))

/-- An integer behind its sign. A leading zero means base eight unless a letter
names another one. -/
def magnitude (s : List Char) : Except ReadError Int :=
  match s with
  | [] => .error .emptyNumber
  | ['0'] => .ok 0
  | '0' :: 'b' :: digits => integerIn 2 digits
  | '0' :: 'x' :: digits => integerIn 16 digits
  | '0' :: _ => integerIn 8 s
  | _ => do
    let parts ← (Text.pieces ':' s).mapM (integerIn 10)
    return parts.foldl (fun n part => 60 * n + part) 0

def integer (s : String) : Except ReadError Int :=
  let (negative, digits) := Integer.takeSign (withoutUnderscores s.toList)
  (magnitude digits).map fun n => if negative then -n else n

/-! ## Floating-point numbers -/

def doubleOf (s : List Char) : Except ReadError Binary64 :=
  match Binary64.read? (.ofList s) with
  | some x => .ok x
  | none => .error (.noFloat (.ofList s))

/-- The sum of parts, the last one first, where the first of them weighs
`weight`. Every product and every sum is rounded. -/
def weighed (sum : Binary64) (weight : Nat) : List Binary64 → Except ReadError Binary64
  | [] => .ok sum
  | part :: rest =>
    match Binary64.ofNat? weight with
    | some w => weighed (sum.plus (part.times w)) (60 * weight) rest
    | none => .error .hugeWeight

/-- A floating-point number behind its sign. The not-a-number that has a word of
its own is always the same one. -/
def floatMagnitude (negative : Bool) (s : List Char) : Except ReadError Scalar :=
  let signed (x : Binary64) : Scalar := .float (if negative then x.negate else x)
  if s = ".inf".toList then .ok (signed (.infinite false))
  else if s = ".nan".toList then .ok .nan
  else if s.contains ':' then do
    let parts ← (Text.pieces ':' s).mapM doubleOf
    return signed (← weighed .zero 1 parts.reverse)
  else signed <$> doubleOf s

def float (s : String) : Except ReadError Scalar :=
  match Text.lowerChars (withoutUnderscores s.toList) with
  | [] => .error .emptyNumber
  | digits =>
    let (negative, digits) := Integer.takeSign digits
    floatMagnitude negative digits

end ContactCard.Yaml
