import ContactCard.Moment

/-!
# Layouts of moments

A layout says how a moment is written. Either its tokens, runs of certain letters,
are replaced by parts of the moment, or, if there is a percent sign in it, the
directives behind percent signs are.
-/

namespace ContactCard.Moment

/-! ## Directives -/

def dayNumber (m : Moment) : Nat := m.date.dayOfYear

/-- The moment three days after the Monday of its week: its year is the one that
the week belongs to. -/
def thursday (m : Moment) : Moment := { m with seconds := (m.days - m.weekday + 3) * 86400 }

/-- A number, padded with spaces to two characters. -/
def spacePadded (n : Nat) : List Char :=
  if n < 10 then ' ' :: Nat.toDigits 10 n else Nat.toDigits 10 n

/-- A directive of one part; its text may be that of other directives. -/
def simpleDirective? (m : Moment) (c : Char) : Option (List Char) :=
  match c with
  | 'a' => some (m.weekdayName.take 3)
  | 'A' => some m.weekdayName
  | 'b' | 'h' => some (m.monthName.take 3)
  | 'B' => some m.monthName
  | 'C' => some (zeroPadded 2 (m.date.year / 100))
  | 'd' => some (zeroPadded 2 m.date.day)
  | 'e' => some (spacePadded m.date.day)
  | 'f' => some (zeroPadded 6 m.micros)
  | 'g' => some (zeroPadded 2 (m.thursday.date.year % 100))
  | 'G' => some (zeroPadded 4 m.thursday.date.year)
  | 'H' => some (zeroPadded 2 m.hour)
  | 'I' => some (zeroPadded 2 m.faceHour)
  | 'j' => some (zeroPadded 3 m.dayNumber)
  | 'k' => some (spacePadded m.hour)
  | 'l' => some (spacePadded m.faceHour)
  | 'm' => some (zeroPadded 2 m.date.month)
  | 'M' => some (zeroPadded 2 m.minute)
  | 'n' => some ['\n']
  | 'p' => some m.half
  | 'P' => some (m.half.map Char.toLower)
  | 's' => some (Nat.toDigits 10 m.seconds)
  | 'S' => some (zeroPadded 2 m.second)
  | 't' => some ['\t']
  | 'u' => some (Nat.toDigits 10 (m.weekday + 1))
  | 'U' => some (zeroPadded 2 ((m.dayNumber + 6 - (m.weekday + 1) % 7) / 7))
  | 'V' => some (zeroPadded 2 ((m.thursday.dayNumber - 1) / 7 + 1))
  | 'w' => some (Nat.toDigits 10 ((m.weekday + 1) % 7))
  | 'W' => some (zeroPadded 2 ((m.dayNumber + 6 - m.weekday) / 7))
  | 'y' => some (zeroPadded 2 (m.date.year % 100))
  | 'Y' => some (Nat.toDigits 10 m.date.year)
  | 'z' => some "+0000".toList
  | 'Z' => some "UTC".toList
  | '%' => some ['%']
  | _ => none

/-- The directives that some others stand for. -/
def longDirective? : Char → Option String
  | 'c' => some "%a %b %e %H:%M:%S %Y"
  | 'D' | 'x' => some "%m/%d/%y"
  | 'F' => some "%Y-%m-%d"
  | 'r' => some "%I:%M:%S %p"
  | 'R' => some "%H:%M"
  | 'T' | 'X' => some "%H:%M:%S"
  | _ => none

/-- A layout with its directives replaced by `directive`. A percent sign at its end
stands for itself. -/
def replaceDirectives (directive : Char → List Char) : List Char → List Char
  | [] => []
  | '%' :: c :: rest => directive c ++ replaceDirectives directive rest
  | c :: rest => c :: replaceDirectives directive rest

/-- A directive; one that is not known stands for itself. -/
def directive (m : Moment) (c : Char) : List Char :=
  let simple (c : Char) : List Char := (m.simpleDirective? c).getD ['%', c]
  match longDirective? c with
  | some layout => replaceDirectives simple layout.toList
  | none => simple c

/-! ## Tokens -/

/-- How many of the first characters are the same one. -/
def runLength : List Char → Nat
  | [] => 0
  | c :: rest => (rest.takeWhile (· = c)).length + 1

/-- The length of the token at the front of a layout, zero if there is none. -/
def tokenLength (s : List Char) : Nat :=
  let run := runLength s
  match s.head? with
  | some 'H' | some 'h' | some 'm' | some 's' | some 'Z' => min run 2
  | some 'M' | some 'D' => min run 4
  | some 'S' => run
  | some 'Y' => if 4 ≤ run then 4 else if 2 ≤ run then 2 else 0
  | some 'z' => if 2 ≤ run then 2 else 0
  | some 'd' => if 4 ≤ run then 4 else if run = 3 then 3 else 1
  | some 'A' | some 'X' | some 'x' | some 'E' | some 'Q' => 1
  | _ => 0

/-- The text of a token. -/
def token (m : Moment) (s : List Char) : List Char :=
  match String.ofList s with
  | "YYYY" => zeroPadded 4 m.date.year
  | "YY" => zeroPadded 2 (m.date.year % 100)
  | "Q" => Nat.toDigits 10 ((m.date.month - 1) / 3 + 1)
  | "MMMM" => m.monthName
  | "MMM" => m.monthName.take 3
  | "MM" => zeroPadded 2 m.date.month
  | "M" => Nat.toDigits 10 m.date.month
  | "DDDD" => zeroPadded 3 m.dayNumber
  | "DDD" => Nat.toDigits 10 m.dayNumber
  | "DD" => zeroPadded 2 m.date.day
  | "D" => Nat.toDigits 10 m.date.day
  | "dddd" => m.weekdayName
  | "ddd" => m.weekdayName.take 3
  | "d" => Nat.toDigits 10 m.weekday
  | "E" => Nat.toDigits 10 (m.weekday + 1)
  | "HH" => zeroPadded 2 m.hour
  | "H" => Nat.toDigits 10 m.hour
  | "hh" => zeroPadded 2 m.faceHour
  | "h" => Nat.toDigits 10 m.faceHour
  | "mm" => zeroPadded 2 m.minute
  | "m" => Nat.toDigits 10 m.minute
  | "ss" => zeroPadded 2 m.second
  | "s" => Nat.toDigits 10 m.second
  | "A" => m.half
  | "Z" => "+00:00".toList
  | "ZZ" => "+0000".toList
  | "zz" => "UTC".toList
  | "X" => Nat.toDigits 10 m.seconds
  | "x" => Nat.toDigits 10 (m.seconds * 1000000 + m.micros)
  | _ => (zeroPadded 6 m.micros).take s.length

/-- What stands in brackets at the front of a layout, if that is a token, the mark
of universal time or nothing. Brackets around it keep it as it is. -/
def bracketed? : List Char → Option (List Char)
  | '[' :: rest =>
    let content := rest.takeWhile (· ≠ ']')
    if content.length < rest.length
        && (tokenLength content = content.length || content = "!UTC".toList) then
      some content
    else none
  | _ => none

/-- A layout with its tokens replaced, after `skip` characters that are done with. -/
def replaceTokens (m : Moment) (skip : Nat) : List Char → List Char
  | [] => []
  | c :: rest =>
    match skip, bracketed? (c :: rest), tokenLength (c :: rest) with
    | skip + 1, _, _ => replaceTokens m skip rest
    | 0, some content, _ => content ++ replaceTokens m (content.length + 1) rest
    | 0, none, 0 => c :: replaceTokens m 0 rest
    | 0, none, length + 1 => m.token ((c :: rest).take (length + 1)) ++ replaceTokens m length rest

/-! ## Layouts -/

/-- The layout of a moment that is given none. -/
def usualLayout : List Char := "%Y-%m-%dT%H:%M:%S.%f%z".toList

/-- Whether a layout asks for more digits of a second than a moment has. -/
def isTooFine : List Char → Bool
  | [] => false
  | c :: rest => (List.replicate 7 'S').isPrefixOf (c :: rest) || isTooFine rest

/-- A layout without the mark of universal time at its end. -/
def withoutMark (layout : List Char) : List Char :=
  let mark := "!UTC".toList
  if layout.drop (layout.length - mark.length) = mark then layout.take (layout.length - mark.length)
  else layout

/-- The text of a moment in a layout, unless that is malformed. -/
def write? (m : Moment) (layout : List Char) : Option (List Char) :=
  let given := withoutMark layout
  let layout := if given.isEmpty then usualLayout else given
  if layout.contains '%' then some (replaceDirectives m.directive layout)
  else if isTooFine layout then none
  else some (m.replaceTokens 0 layout)

end ContactCard.Moment
