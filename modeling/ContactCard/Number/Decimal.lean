import ContactCard.Number.Binary64
import ContactCard.Number.Integer

/-!
# Reading decimal text as a double

A sign, digits with an optional point and an optional exponent, or one of the
words for the values that are not finite. Digits may be of any script, and blanks
may surround the text.
-/

namespace ContactCard.Binary64

/-- A run of decimal digits and what follows it. -/
def takeDigits : List Char → List Nat × List Char
  | [] => ([], [])
  | c :: rest =>
    match Integer.digit? 10 c with
    | some d => (d :: (takeDigits rest).1, (takeDigits rest).2)
    | none => ([], c :: rest)

def exponent? : List Char → Option Int
  | [] => some 0
  | e :: rest =>
    if e = 'e' ∨ e = 'E' then
      let (negative, rest) := Integer.takeSign rest
      match takeDigits rest with
      | ([], _) => none
      | (digits, []) =>
        let n : Int := Integer.ofDigits 10 digits
        some (if negative then -n else n)
      | _ => none
    else none

def unsigned? (negative : Bool) (s : List Char) : Option Binary64 :=
  let (whole, rest) := takeDigits s
  let (fraction, rest) :=
    match rest with
    | '.' :: tail => takeDigits tail
    | tail => ([], tail)
  if whole.isEmpty && fraction.isEmpty then none
  else (exponent? rest).map fun exponent =>
    ofDecimal negative (Integer.ofDigits 10 (whole ++ fraction)) (exponent - fraction.length)

def infinityWords : List String := ["inf", "infinity"]

def read? (s : String) : Option Binary64 :=
  let (negative, number) := Integer.takeSign (Text.stripWith Integer.isMargin s.toList)
  let word := (String.ofList number).map Char.toLower
  if word = "nan" then some .nan
  else if infinityWords.contains word then some (.infinite negative)
  else unsigned? negative number

end ContactCard.Binary64
