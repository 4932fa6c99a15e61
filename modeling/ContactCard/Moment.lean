/-!
# Moments

Points in time to the microsecond, by universal time, with their dates in the
calendar and their texts.
-/

namespace ContactCard

/-- Seconds since the beginning of 1970, and microseconds after them. -/
structure Moment where
  seconds : Nat
  micros : Nat := 0
  deriving DecidableEq, Repr

/-- A date in the calendar; months and days count from one. -/
structure Date where
  year : Nat
  month : Nat
  day : Nat
  deriving DecidableEq, Repr

/-- Digits of a number, padded with zeros to a width. -/
def zeroPadded (width n : Nat) : List Char :=
  let digits := Nat.toDigits 10 n
  List.replicate (width - digits.length) '0' ++ digits

namespace Date

/-- The date that lies some days after the beginning of 1970. Years are counted
from March, so that a leap day comes last, and in cycles of 400. -/
def ofDays (days : Nat) : Date :=
  let shifted := days + 719468
  let cycle := shifted / 146097
  let inCycle := shifted % 146097
  let year := (inCycle - inCycle / 1460 + inCycle / 36524 - inCycle / 146096) / 365
  let inYear := inCycle - (365 * year + year / 4 - year / 100)
  let march := (5 * inYear + 2) / 153
  let day := inYear - (153 * march + 2) / 5 + 1
  let month := if march < 10 then march + 3 else march - 9
  ⟨400 * cycle + year + (if month ≤ 2 then 1 else 0), month, day⟩

def isLeap (year : Nat) : Bool := year % 4 = 0 && (year % 100 ≠ 0 || year % 400 = 0)

def monthLengths (year : Nat) : List Nat :=
  [31, if isLeap year then 29 else 28, 31, 30, 31, 30, 31, 31, 30, 31, 30, 31]

/-- The number of the day in its year, from one. -/
def dayOfYear (d : Date) : Nat :=
  ((monthLengths d.year).take (d.month - 1)).foldl (· + ·) d.day

end Date

namespace Moment

def days (m : Moment) : Nat := m.seconds / 86400

def date (m : Moment) : Date := .ofDays m.days

def hour (m : Moment) : Nat := m.seconds / 3600 % 24

def minute (m : Moment) : Nat := m.seconds / 60 % 60

def second (m : Moment) : Nat := m.seconds % 60

/-- The day of the week, Monday being zero. -/
def weekday (m : Moment) : Nat := (m.days + 3) % 7

/-- The hour on a face with twelve hours. -/
def faceHour (m : Moment) : Nat := (m.hour + 11) % 12 + 1

def weekdayNames : List String :=
  ["Monday", "Tuesday", "Wednesday", "Thursday", "Friday", "Saturday", "Sunday"]

def monthNames : List String :=
  ["January", "February", "March", "April", "May", "June", "July", "August", "September",
    "October", "November", "December"]

def weekdayName (m : Moment) : List Char := (weekdayNames[m.weekday]?.getD "").toList

def monthName (m : Moment) : List Char := (monthNames[m.date.month - 1]?.getD "").toList

def half (m : Moment) : List Char := (if m.hour < 12 then "AM" else "PM").toList

/-- Date and time with nothing but an underscore between them. -/
def compact (m : Moment) : String :=
  .ofList (zeroPadded 4 m.date.year ++ zeroPadded 2 m.date.month ++ zeroPadded 2 m.date.day
    ++ '_' :: (zeroPadded 2 m.hour ++ zeroPadded 2 m.minute ++ zeroPadded 2 m.second))

end Moment

end ContactCard
