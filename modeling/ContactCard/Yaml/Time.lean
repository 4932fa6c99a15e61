import ContactCard.Moment
import ContactCard.Number.Integer
import ContactCard.Yaml.Cursor
import ContactCard.Yaml.Digit

/-!
# Points in time

The texts that spell a date, or a date and a time of day with an optional offset
in minutes, and what of them there can be.
-/

namespace ContactCard.Yaml

structure Clock where
  hour : Nat
  minute : Nat
  second : Nat
  offset : Int := 0

/-- A date and a time of day, as they are spelled. -/
structure Time where
  date : Date
  clock : Option Clock := none

/-- What of a spelled time there is none of. -/
inductive TimeError
  | offset (minutes : Int)
  | year (n : Nat)
  | month
  | day
  | hour
  | minute
  | second
  deriving DecidableEq, Repr

/-- The words for a span of minutes, of which the days are rounded down. -/
def spanText (minutes : Int) : String :=
  let days := minutes.fdiv 1440
  let seconds := 60 * minutes.fmod 1440
  let parts :=
    (if days = 0 then [] else ["days=" ++ Integer.write days])
      ++ (if seconds = 0 then [] else ["seconds=" ++ Integer.write seconds])
  "datetime.timedelta(" ++ ", ".intercalate parts ++ ")"

def TimeError.message : TimeError → String
  | .offset minutes =>
    "offset must be a timedelta strictly between -timedelta(hours=24) and timedelta(hours=24), not "
      ++ spanText minutes ++ "."
  | .year n => "year " ++ toString n ++ " is out of range"
  | .month => "month must be in 1..12"
  | .day => "day is out of range for month"
  | .hour => "hour must be in 0..23"
  | .minute => "minute must be in 0..59"
  | .second => "second must be in 0..59"

namespace Time

/-! ## Reading -/

/-- A number of some digits, of which there may be one less, and what follows it. -/
def number? (count : Nat) (mayLack : Bool) (s : List Char) : Option (Nat × List Char) :=
  let digits := (s.takeWhile Char.isDigit).take count
  if digits.length = count || (mayLack && digits.length + 1 = count) then
    (natural? 10 digits).map fun n => (n, s.drop digits.length)
  else none

def dropMark? (mark : Char) (s : List Char) : Option (List Char) :=
  if s.head? = some mark then some s.tail else none

def date? (s : List Char) : Option (Date × List Char) := do
  let (year, s) ← number? 4 false s
  let (month, s) ← number? 2 true (← dropMark? '-' s)
  let (day, s) ← number? 2 true (← dropMark? '-' s)
  return (⟨year, month, day⟩, s)

/-- What follows the letter or the gap between a date and a time of day. -/
def dropJoint? : List Char → Option (List Char)
  | [] => none
  | c :: rest =>
    if c = 'T' ∨ c = 't' then some rest
    else if isGap c then some (rest.dropWhile isGap)
    else none

/-- What follows the digits behind a point, if there is one. -/
def dropFraction (s : List Char) : List Char :=
  if s.head? = some '.' then s.tail.dropWhile Char.isDigit else s

/-- Minutes that a sign stands in front of, or nothing. -/
def offset? (s : List Char) : Option Int :=
  match s.dropWhile isGap with
  | [] => if s.isEmpty then some 0 else none
  | ['Z'] => some 0
  | sign :: rest => do
    let (hours, rest) ← if sign = '+' ∨ sign = '-' then number? 2 true rest else none
    let (minutes, rest) ←
      if rest.isEmpty then some (0, []) else dropMark? ':' rest >>= number? 2 false
    if !rest.isEmpty then none
    let total : Int := 60 * hours + minutes
    return if sign = '-' then -total else total

def clock? (s : List Char) : Option Clock := do
  let (hour, s) ← number? 2 true s
  let (minute, s) ← number? 2 false (← dropMark? ':' s)
  let (second, s) ← number? 2 false (← dropMark? ':' s)
  return ⟨hour, minute, second, ← offset? (dropFraction s)⟩

def read? (s : List Char) : Option Time := do
  match ← date? s with
  | (date, []) => return { date }
  | (date, rest) => return { date, clock := some (← dropJoint? rest >>= clock?) }

/-! ## Checking -/

/-- What is wrong with a date, if something is. -/
def dateError? (d : Date) : Option TimeError :=
  if d.year = 0 then some (.year d.year)
  else if d.month = 0 then some .month
  else
    match (Date.monthLengths d.year)[d.month - 1]? with
    | none => some .month
    | some length => if d.day = 0 ∨ length < d.day then some .day else none

def clockError? (c : Clock) : Option TimeError :=
  if 24 ≤ c.hour then some .hour
  else if 60 ≤ c.minute then some .minute
  else if 60 ≤ c.second then some .second
  else none

/-- What is wrong with a time, if something is: its offset first. -/
def error? (t : Time) : Option TimeError :=
  match t.clock with
  | none => dateError? t.date
  | some c =>
    if 1440 ≤ c.offset.natAbs then some (.offset c.offset)
    else (dateError? t.date).or (clockError? c)

end Time

end ContactCard.Yaml
