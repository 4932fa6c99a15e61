import ContactCard.Text.Blank
import ContactCard.Text.Digit
import ContactCard.Text.Quoted

/-!
# Integers as text

Integers are written in decimal with a sign only when negative. Reading is
wider: surrounding blanks, one sign of either kind, digits of any script, and
single underscores between digits. Digits may be of base ten or of a base that
is a power of two, which a mark in front of them may name. Decimal text may not
have too many digits, whether it is read or written.
-/

namespace ContactCard.Integer

open Text

def write (n : Int) : String :=
  .ofList (if n < 0 then '-' :: Nat.toDigits 10 n.natAbs else Nat.toDigits 10 n.natAbs)

/-- Decimal numbers with more digits are refused. -/
def maxDigits : Nat := 4300

/-- Whether the decimal text of a number is not too long. -/
def isWritable (n : Int) : Bool := n.natAbs < Nat.pow 10 maxDigits

/-- Blanks allowed around a number: the four ASCII separators are not. -/
def isMargin (c : Char) : Bool := isBlank c && !(0x1c ≤ c.toNat && c.toNat ≤ 0x1f)

/-- A sign and what follows it. -/
def takeSign : List Char → Bool × List Char
  | '-' :: rest => (true, rest)
  | '+' :: rest => (false, rest)
  | rest => (false, rest)

/-! ## Digits -/

def letterValue? (c : Char) : Option Nat :=
  if 'a' ≤ c ∧ c ≤ 'f' then some (c.toNat - 'a'.toNat + 10)
  else if 'A' ≤ c ∧ c ≤ 'F' then some (c.toNat - 'A'.toNat + 10)
  else none

/-- The value of a digit of a base up to sixteen: a decimal digit of any script,
or a letter. -/
def digit? (base : Nat) (c : Char) : Option Nat :=
  ((digitValue? c).or (letterValue? c)).filter (· < base)

/-- Digits with at most one underscore between two of them. -/
def digits? (base : Nat) : List Char → Option (List Nat)
  | [] => none
  | [c] => (digit? base c).map fun d => [d]
  | c :: next :: rest =>
    if next = '_' then do
      let d ← digit? base c
      let ds ← digits? base rest
      return d :: ds
    else do
      let d ← digit? base c
      let ds ← digits? base (next :: rest)
      return d :: ds

def ofDigits (base : Nat) (digits : List Nat) : Nat := digits.foldl (fun n d => base * n + d) 0

/-! ## Reading -/

/-- Why a text is no integer. -/
inductive IntegerError
  | malformed
  | tooLong (digits : Nat)
  deriving DecidableEq, Repr

/-- What is said of a number with too many digits, which may have been counted. -/
def limitMessage (digits : Option Nat) : String :=
  let found := digits.elim "" fun n => ": value has " ++ toString n ++ " digits"
  "Exceeds the limit (" ++ toString maxDigits ++ " digits) for integer string conversion" ++ found
    ++ "; use sys.set_int_max_str_digits() to increase the limit"

/-- How much of a text that is no integer is shown. -/
def shownLength : Nat := 200

def IntegerError.message (base : Nat) (written : String) : IntegerError → String
  | .malformed =>
    "invalid literal for int() with base " ++ toString base ++ ": "
      ++ .ofList ((Quoted.encode written.toList).take shownLength)
  | .tooLong digits => limitMessage (some digits)

/-- The letters of the mark that names a base. -/
def markLetters : Nat → List Char
  | 2 => ['b', 'B']
  | 8 => ['o', 'O']
  | 16 => ['x', 'X']
  | _ => []

/-- What follows the mark of a base, if there is one. -/
def dropMark (base : Nat) : List Char → List Char
  | zero :: letter :: rest =>
    if digitValue? zero = some 0 ∧ letter ∈ markLetters base then rest else zero :: letter :: rest
  | rest => rest

/-- The number that digits stand for, if nothing else follows. That there are too
many digits counts before what follows them. -/
def natural (base : Nat) (s : List Char) : Except IntegerError Nat :=
  let run := s.takeWhile fun c => (digit? base c).isSome || c = '_'
  match digits? base run with
  | none => .error .malformed
  | some ds =>
    if base = 10 ∧ maxDigits < ds.length then .error (.tooLong ds.length)
    else if run.length < s.length then .error .malformed
    else .ok (ofDigits base ds)

/-- The number that a text of a base stands for. -/
def parse (base : Nat) (s : List Char) : Except IntegerError Int :=
  let (negative, rest) := takeSign (stripWith isMargin s)
  (natural base (dropMark base rest)).map fun n => if negative then -(n : Int) else n

def read? (s : String) : Option Int := (parse 10 s.toList).toOption

end ContactCard.Integer
