import ContactCard.Number.Binary64
import ContactCard.Number.Integer

/-!
# Shortest decimal text

A double is written with the fewest digits that read back as the same double,
and of those the digits nearest to its value. Numbers from 1e-4 up to 1e16 are
written positionally, all others with an exponent of at least two digits.
-/

namespace ContactCard.Binary64

/-- Whether `digits * 10 ^ place` rounds to the double with this significand
and exponent: it lies between the midpoints to the two neighbours, which count
when the significand is even. Below a power of two the lower neighbour is half
as far. -/
def readsBack (significand : Nat) (exponent : Int) (digits : Nat) (place : Int) : Bool :=
  let two := power 2 (exponent - 2)
  let ten := power 10 place
  let point := digits * ten.1 * two.2
  let narrow := significand = fullSignificand && leastExponent < exponent
  let low := (4 * significand - (if narrow then 1 else 2)) * two.1 * ten.2
  let high := (4 * significand + 2) * two.1 * ten.2
  if significand % 2 = 0 then low ≤ point && point ≤ high else low < point && point < high

/-- The place above the leading digit: `10 ^ (place - 1) ≤ value < 10 ^ place`. -/
def leadingPlace (num den : Nat) : Int :=
  let guess : Int := floorLog2 num den * 30103 / 100000
  let below (place : Int) : Bool :=
    let ten := power 10 place
    num * ten.2 < den * ten.1
  if below (guess - 1) then guess - 1
  else if below guess then guess
  else if below (guess + 1) then guess + 1
  else guess + 2

/-- The digits that read back among the two neighbours of the value on the
decimal grid at `place`, the nearer if both do. -/
def digitsAt? (significand : Nat) (exponent place : Int) : Option Nat :=
  let two := power 2 exponent
  let ten := power 10 place
  let num := significand * two.1 * ten.2
  let den := two.2 * ten.1
  let down := num / den
  let downFits := readsBack significand exponent down place
  let upFits := readsBack significand exponent (down + 1) place
  if downFits && upFits then some (divideToEven num den)
  else if downFits then some down
  else if upFits then some (down + 1)
  else none

/-- The first grid with a hit, from the coarsest on. -/
def shortestFrom (significand : Nat) (exponent top : Int) : Nat → Nat → Nat × Int
  | 0, count => (significand, top - count)
  | fuel + 1, count =>
    match digitsAt? significand exponent (top - count) with
    | some digits => (digits, top - count)
    | none => shortestFrom significand exponent top fuel (count + 1)

/-- Seventeen digits always read back. -/
def shortest (significand : Nat) (exponent : Int) : Nat × Int :=
  let two := power 2 exponent
  shortestFrom significand exponent (leadingPlace (significand * two.1) two.2) 17 1

def trimZeros (digits : List Char) : List Char := (digits.reverse.dropWhile (· = '0')).reverse

def zeros (count : Int) : List Char := List.replicate count.toNat '0'

/-- The point stands after `point` digits; it may lie outside of them. -/
def positional (digits : List Char) (point : Int) : List Char :=
  if point ≤ 0 then '0' :: '.' :: (zeros (-point) ++ digits)
  else
    let whole := digits.take point.toNat ++ zeros (point - digits.length)
    let rest := digits.drop point.toNat
    whole ++ '.' :: (if rest.isEmpty then ['0'] else rest)

def scientific (digits : List Char) (point : Int) : List Char :=
  let exponent := point - 1
  let size := Nat.toDigits 10 exponent.natAbs
  let mantissa :=
    match digits with
    | [] => []
    | [d] => [d]
    | d :: rest => d :: '.' :: rest
  mantissa ++ 'e' :: (if exponent < 0 then '-' else '+') :: (zeros (2 - size.length) ++ size)

def magnitude (significand : Nat) (exponent : Int) : List Char :=
  if significand = 0 then ['0', '.', '0']
  else
    let (number, place) := shortest significand exponent
    let digits := Nat.toDigits 10 number
    let point := place + digits.length
    let digits := trimZeros digits
    if -4 < point && point ≤ 16 then positional digits point else scientific digits point

def write : Binary64 → String
  | .nan => "nan"
  | .infinite negative => if negative then "-inf" else "inf"
  | .finite negative significand exponent =>
    .ofList ((if negative then ['-'] else []) ++ magnitude significand exponent)

end ContactCard.Binary64
