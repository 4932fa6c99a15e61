/-!
# Double-precision numbers

The values of the 64-bit binary format, kept as a sign, a significand and an
exponent, so that rounding and comparison are exact integer arithmetic.
-/

namespace ContactCard

/-- A finite value is `significand * 2 ^ exponent` with the given sign, where
the significand has at most 53 bits and the exponent is at least -1074. -/
inductive Binary64
  | nan
  | infinite (negative : Bool)
  | finite (negative : Bool) (significand : Nat) (exponent : Int)
  deriving DecidableEq, Repr, Inhabited

namespace Binary64

def leastExponent : Int := -1074

def greatestExponent : Int := 971

/-- The least significand of full length, `2 ^ 52`. -/
def fullSignificand : Nat := 4503599627370496

/-- The quotient rounded to the nearest integer, a half to the even one. -/
def divideToEven (num den : Nat) : Nat :=
  let quotient := num / den
  let twice := 2 * (num % den)
  if twice < den then quotient
  else if den < twice then quotient + 1
  else quotient + quotient % 2

/-- `base ^ exponent` as a numerator and a denominator. -/
def power (base : Nat) (exponent : Int) : Nat × Nat :=
  if 0 ≤ exponent then (Nat.pow base exponent.toNat, 1) else (1, Nat.pow base (-exponent).toNat)

/-- The greatest `l` with `2 ^ l ≤ num / den`. -/
def floorLog2 (num den : Nat) : Int :=
  let guess : Int := (Nat.log2 num : Int) - (Nat.log2 den : Int)
  let scale := power 2 guess
  if den * scale.1 ≤ num * scale.2 then guess else guess - 1

/-- The value nearest to `num / den`. -/
def ofRatio (negative : Bool) (num den : Nat) : Binary64 :=
  if num = 0 then .finite negative 0 leastExponent
  else
    let exponent := max (floorLog2 num den - 52) leastExponent
    let scale := power 2 exponent
    let significand := divideToEven (num * scale.2) (den * scale.1)
    let (significand, exponent) :=
      if significand = 2 * fullSignificand then (fullSignificand, exponent + 1)
      else (significand, exponent)
    if greatestExponent < exponent then .infinite negative
    else .finite negative significand exponent

/-- The value nearest to `n * 2 ^ exponent`. -/
def ofDyadic (negative : Bool) (n : Nat) (exponent : Int) : Binary64 :=
  let scale := power 2 exponent
  ofRatio negative (n * scale.1) scale.2

/-- The value nearest to a natural number, unless it is beyond all of them. -/
def ofNat? (n : Nat) : Option Binary64 :=
  match ofDyadic false n 0 with
  | .finite negative significand exponent => some (.finite negative significand exponent)
  | _ => none

def zero : Binary64 := .finite false 0 leastExponent

def isNegative : Binary64 → Bool
  | .nan => false
  | .infinite negative => negative
  | .finite negative _ _ => negative

def isZero : Binary64 → Bool
  | .finite _ significand _ => significand == 0
  | _ => false

def negate : Binary64 → Binary64
  | .nan => .nan
  | .infinite negative => .infinite !negative
  | .finite negative significand exponent => .finite (!negative) significand exponent

/-- The value nearest to the product. -/
def times (x y : Binary64) : Binary64 :=
  let negative := x.isNegative != y.isNegative
  match x, y with
  | .nan, _ | _, .nan => .nan
  | .finite _ m e, .finite _ n f => ofDyadic negative (m * n) (e + f)
  | x, y => if x.isZero || y.isZero then .nan else .infinite negative

/-- A significand with the sign of its value. -/
def signed (negative : Bool) (n : Nat) : Int := if negative then -(n : Int) else n

/-- The value nearest to the sum. A sum of nothing is negative only where both
values are. -/
def plus (x y : Binary64) : Binary64 :=
  match x, y with
  | .nan, _ | _, .nan => .nan
  | .infinite a, .infinite b => if a = b then .infinite a else .nan
  | .infinite a, .finite _ _ _ | .finite _ _ _, .infinite a => .infinite a
  | .finite a m e, .finite b n f =>
    let least := min e f
    let sum := signed a m * Nat.pow 2 (e - least).toNat + signed b n * Nat.pow 2 (f - least).toNat
    if sum = 0 then .finite (a && b) 0 leastExponent
    else ofDyadic (sum < 0) sum.natAbs least

/-- The value nearest to `digits * 10 ^ exponent`. Exponents far outside the
range of the format are settled without computing the power. -/
def ofDecimal (negative : Bool) (digits : Nat) (exponent : Int) : Binary64 :=
  let size : Int := (Nat.toDigits 10 digits).length + exponent
  if digits = 0 || size < -400 then .finite negative 0 leastExponent
  else if 400 < size then .infinite negative
  else
    let scale := power 10 exponent
    ofRatio negative (digits * scale.1) scale.2

end Binary64

/-- A number of any kind, for comparison: `dyadic n e` is `n * 2 ^ e`. -/
inductive Number
  | nan
  | infinite (negative : Bool)
  | dyadic (numerator : Int) (exponent : Int)

namespace Number

def ofInt (n : Int) : Number := .dyadic n 0

def ofBinary64 : Binary64 → Number
  | .nan => .nan
  | .infinite negative => .infinite negative
  | .finite negative significand exponent =>
    .dyadic (if negative then -(significand : Int) else significand) exponent

/-- Compares `a * 2 ^ e` with `b * 2 ^ f` over the smaller exponent. -/
def compareDyadic (a e b f : Int) : Ordering :=
  let least := min e f
  compare (a * Nat.pow 2 (e - least).toNat) (b * Nat.pow 2 (f - least).toNat)

/-- The order of two numbers; a not-a-number has none. -/
def compare? : Number → Number → Option Ordering
  | .nan, _ => none
  | _, .nan => none
  | .infinite a, .infinite b => some (compare b a)
  | .infinite negative, .dyadic _ _ => some (if negative then .lt else .gt)
  | .dyadic _ _, .infinite negative => some (if negative then .gt else .lt)
  | .dyadic a e, .dyadic b f => some (compareDyadic a e b f)

end Number

end ContactCard
