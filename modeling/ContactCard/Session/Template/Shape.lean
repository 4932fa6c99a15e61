import ContactCard.Number.Binary64
import ContactCard.Text.Digit

/-!
# Shapes of fields

How a text or a number is put into a field: with what and on which side it is
filled up to a width, how much of it is shown, and in which notation a number is
written. A shape that does not suit what it is given for is refused.
-/

namespace ContactCard.Template

/-- Where the filling goes: behind, in front, on both sides, or between the sign of
a number and its digits. -/
inductive Side
  | behind
  | front
  | around
  | within
  deriving DecidableEq, Repr

def Side.ofChar? : Char → Option Side
  | '<' => some .behind
  | '>' => some .front
  | '^' => some .around
  | '=' => some .within
  | _ => none

structure Shape where
  fill : Option Char := none
  side : Option Side := none
  sign : Option Char := none
  dropsZeroSign : Bool := false
  isMarked : Bool := false
  hasZeros : Bool := false
  width : Nat := 0
  separator : Option Char := none
  precision : Option Nat := none
  style : Option Char := none
  deriving Repr

namespace Shape

/-! ## Reading -/

/-- Widths and precisions beyond this are refused. -/
def greatestNumber : Nat := 9223372036854775807

/-- Decimal digits of any script as a number, if there are some, and what follows. -/
def number? (s : List Char) : Option (Option Nat × List Char) :=
  let digits := s.takeWhile fun c => (Text.digitValue? c).isSome
  let n := (digits.filterMap Text.digitValue?).foldl (fun n d => 10 * n + d) 0
  if greatestNumber < n then none
  else some (if digits.isEmpty then none else some n, s.drop digits.length)

def readSide (s : List Char) : Shape × List Char :=
  match s with
  | c :: d :: rest =>
    match Side.ofChar? d, Side.ofChar? c with
    | some side, _ => ({ fill := some c, side := some side }, rest)
    | none, some side => ({ side := some side }, d :: rest)
    | none, none => ({}, s)
  | [c] =>
    match Side.ofChar? c with
    | some side => ({ side := some side }, [])
    | none => ({}, s)
  | [] => ({}, [])

/-- Takes a character off the front if it is there. -/
def takeMark (c : Char) (s : List Char) : Bool × List Char :=
  if s.head? = some c then (true, s.tail) else (false, s)

def separators : List Char := [',', '_']

/-- Whether digits may be grouped with a separator in a notation. -/
def allowsSeparator (style : Option Char) (c : Char) : Bool :=
  match style with
  | none => true
  | some n => "deEfFgG%".toList.contains n || (c = '_' && "boxX".toList.contains n)

def read? (s : List Char) : Option Shape := do
  let (shape, s) := readSide s
  let (sign, s) : Option Char × List Char :=
    match s with
    | '+' :: rest => (some '+', rest)
    | '-' :: rest => (some '-', rest)
    | ' ' :: rest => (some ' ', rest)
    | s => (none, s)
  let (dropsZeroSign, s) := takeMark 'z' s
  let (isMarked, s) := takeMark '#' s
  let (hasZeros, s) := if shape.fill.isNone then takeMark '0' s else (false, s)
  let (width, s) ← number? s
  let separator := s.head?.filter separators.contains
  let s := if separator.isSome then s.tail else s
  if separator.isSome && s.head?.any fun c => separators.contains c && separator ≠ some c then none
  let (precision, s) ←
    match s with
    | '.' :: rest => (number? rest).filter fun found => found.1.isSome
    | s => some (none, s)
  let shape := { shape with
    sign, dropsZeroSign, isMarked, hasZeros, width := width.getD 0, separator, precision }
  match s with
  | [] => some shape
  | [c] =>
    if separator.all (allowsSeparator (some c)) then some { shape with style := some c } else none
  | _ => none

/-! ## Filling -/

/-- No path holds a text as wide as this. -/
def greatestWidth : Nat := 100000

/-- A text filled up to a width, where `lead` stays in front. -/
def filled (shape : Shape) (usual : Side) (lead s : List Char) : List Char :=
  let missing := min shape.width greatestWidth - (lead.length + s.length)
  let fill := shape.fill.getD (if shape.hasZeros then '0' else ' ')
  let fills (n : Nat) : List Char := List.replicate n fill
  match shape.side.getD usual with
  | .behind => lead ++ s ++ fills missing
  | .front => fills missing ++ lead ++ s
  | .around => fills (missing / 2) ++ lead ++ s ++ fills (missing - missing / 2)
  | .within => lead ++ fills missing ++ s

/-- A text in its shape. -/
def text? (shape : Shape) (s : List Char) : Option (List Char) :=
  if shape.style.any (· ≠ 's') || shape.sign.isSome || shape.dropsZeroSign || shape.isMarked
      || shape.separator.isSome || shape.side = some .within then none
  else some (shape.filled .behind [] (shape.precision.elim s s.take))

/-! ## Numbers -/

/-- Digits in groups, the last of which are full. -/
def grouped (separator : Option Char) (size : Nat) (digits : List Char) : List Char :=
  match separator with
  | none => digits
  | some c =>
    let count := digits.length
    (digits.zipIdx.flatMap fun (d, i) =>
      if 0 < i && (count - i) % size = 0 then [c, d] else [d])

/-- Digits with zeros in front until, in groups, they are at least so long. -/
def groupedTo (separator : Option Char) (size width : Nat) (digits : List Char) : List Char :=
  let zeros := width - digits.length
  let counts := (List.range (zeros + 1)).map fun n => List.replicate n '0' ++ digits
  ((counts.map (grouped separator size)).find? (width ≤ ·.length)).getD digits

/-- What stands in front of the digits of a number that is not negative. -/
def signText (shape : Shape) : List Char :=
  match shape.sign with
  | some '+' => ['+']
  | some ' ' => [' ']
  | _ => []

/-- A number in its shape, with `lead` in front of its digits and `tail` behind. -/
def laidOut (shape : Shape) (size : Nat) (lead digits tail : List Char) : List Char :=
  let usual : Side := if shape.hasZeros then .within else .front
  let lead := shape.signText ++ lead
  let fillsZeros := shape.side.getD usual = .within && (shape.fill = some '0' || shape.hasZeros)
  let width :=
    if fillsZeros then min shape.width greatestWidth - (lead.length + tail.length) else 0
  let digits :=
    if shape.separator.isSome then groupedTo shape.separator size width digits else digits
  shape.filled usual lead (digits ++ tail)

/-- An integer in some base, which a mark may name. -/
def integer? (shape : Shape) (base : Nat) (mark : List Char) (n : Nat) : Option (List Char) :=
  if shape.precision.isSome || shape.dropsZeroSign then none
  else
    let lead := if shape.isMarked then mark else []
    some (shape.laidOut (if base = 10 then 3 else 4) lead (Nat.toDigits base n) [])

/-- The first digits of a number, rounded, and the power of ten of the first one. -/
def leadingDigits (count n : Nat) : List Char × Nat :=
  let digits := Nat.toDigits 10 n
  if digits.length ≤ count then
    (digits ++ List.replicate (count - digits.length) '0', digits.length - 1)
  else
    let rounded :=
      Nat.toDigits 10 (Binary64.divideToEven n (Nat.pow 10 (digits.length - count)))
    (rounded.take count, digits.length - 1 + (rounded.length - count))

/-- Decimals behind their point, which stands alone only if it is asked for. -/
def decimals (shape : Shape) (digits : List Char) : List Char :=
  if digits.isEmpty && !shape.isMarked then [] else '.' :: digits

def withoutZeros (digits : List Char) : List Char :=
  (digits.reverse.dropWhile (· = '0')).reverse

def exponentText (e : Char) (power : Nat) : List Char :=
  let digits := Nat.toDigits 10 power
  e :: '+' :: (List.replicate (2 - digits.length) '0' ++ digits)

/-- How many decimals are shown where nothing is said about it. -/
def usualPrecision : Nat := 6

/-- A number as if it had decimals, in a notation that shows them. -/
def decimal? (shape : Shape) (c : Char) (n : Nat) : Option (List Char) :=
  let precision := min (shape.precision.getD usualPrecision) greatestWidth
  if c = 'f' ∨ c = 'F' then
    some (shape.laidOut 3 [] (Nat.toDigits 10 n)
      (shape.decimals (List.replicate precision '0')))
  else if c = '%' then
    some (shape.laidOut 3 [] (Nat.toDigits 10 (100 * n))
      (shape.decimals (List.replicate precision '0') ++ ['%']))
  else if c = 'e' ∨ c = 'E' then
    let (digits, power) := leadingDigits (precision + 1) n
    some (shape.laidOut 3 [] (digits.take 1)
      (shape.decimals (digits.drop 1) ++ exponentText c power))
  else if c = 'g' ∨ c = 'G' then
    let count := max precision 1
    let (digits, power) := leadingDigits count n
    let trimmed (s : List Char) : List Char := if shape.isMarked then s else withoutZeros s
    some <|
      if power < count then
        shape.laidOut 3 [] (digits.take (power + 1))
          (shape.decimals (trimmed (digits.drop (power + 1))))
      else
        shape.laidOut 3 [] (digits.take 1)
          (shape.decimals (trimmed (digits.drop 1))
            ++ exponentText (if c = 'g' then 'e' else 'E') power)
  else none

/-- A number in its shape. -/
def natural? (shape : Shape) (n : Nat) : Option (List Char) :=
  match shape.style with
  | none | some 'd' | some 'n' => shape.integer? 10 [] n
  | some 'b' => shape.integer? 2 ['0', 'b'] n
  | some 'o' => shape.integer? 8 ['0', 'o'] n
  | some 'x' => shape.integer? 16 ['0', 'x'] n
  | some 'X' => (shape.integer? 16 ['0', 'x'] n).map (·.map Char.toUpper)
  | some 'c' =>
    if shape.sign.isSome || shape.isMarked || shape.precision.isSome || shape.dropsZeroSign then
      none
    else some (shape.filled .front [] [Char.ofNat n])
  | some c => shape.decimal? c n

end Shape

end ContactCard.Template
