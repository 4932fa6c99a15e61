import ContactCard.Text.Pieces
import ContactCard.Yaml.Digit
import ContactCard.Yaml.Tag

/-!
# Plain words

A plain word without a tag has the kind that its spelling shows: a word for null
or a truth value, an integer or a floating-point number, and otherwise text.
Numbers are spelled with ASCII digits, between which underscores may stand.
-/

namespace ContactCard.Yaml

def nullWords : List String := ["", "~", "null", "Null", "NULL"]

def trueWords : List String := ["true", "True", "TRUE", "yes", "Yes", "YES", "on", "On", "ON"]

def falseWords : List String := ["false", "False", "FALSE", "no", "No", "NO", "off", "Off", "OFF"]

def infinityWords : List String := [".inf", ".Inf", ".INF"]

def nanWords : List String := [".nan", ".NaN", ".NAN"]

/-- What follows the sign of a number. -/
def unsigned : List Char → List Char
  | '-' :: rest | '+' :: rest => rest
  | rest => rest

/-- Whether a character is a digit of a base or an underscore between digits. -/
def isSpacedDigit (base : Nat) (c : Char) : Bool := isDigit base c || c = '_'

/-- Whether a text is a decimal digit with digits and underscores behind it. -/
def isSpacedNumber : List Char → Bool
  | [] => false
  | c :: rest => isDigit 10 c && rest.all (isSpacedDigit 10)

/-- Whether a text is digits with single underscores between them. -/
def isTidyNumber (s : List Char) : Bool :=
  (Text.pieces '_' s).all fun digits => !digits.isEmpty && digits.all (isDigit 10)

/-- Whether a part stands for less than sixty. -/
def isSixtieth : List Char → Bool
  | [c] => isDigit 10 c
  | [c, d] => isDigit 6 c && isDigit 10 d
  | _ => false

/-- Whether a number has several parts with colons between them, each after the
first counting sixtieths. -/
def isSexagesimal (s : List Char) : Bool :=
  match Text.pieces ':' s with
  | first :: second :: rest => isSpacedNumber first && (second :: rest).all isSixtieth
  | _ => false

def isIntWord (s : List Char) : Bool :=
  match unsigned s with
  | '0' :: 'b' :: digits => !digits.isEmpty && digits.all (isSpacedDigit 2)
  | '0' :: 'x' :: digits => !digits.isEmpty && digits.all (isSpacedDigit 16)
  | '0' :: digits => digits.all (isSpacedDigit 8)
  | number => isSpacedNumber number || isSexagesimal number

/-- Whether a text is the mark of an exponent and its digits; only some numbers
do without the sign between them. -/
def isExponent (needsSign : Bool) : List Char → Bool
  | [] => false
  | e :: rest =>
    let digits := unsigned rest
    (e = 'e' || e = 'E') && !digits.isEmpty && digits.all (isDigit 10)
      && (!needsSign || digits.length < rest.length)

/-- Whether an unsigned number has a point or an exponent. The sign of the exponent
may be left out where single underscores at most stand before the point, and a
number without a point has none but those. -/
def isPointNumber (s : List Char) : Bool :=
  let whole := s.takeWhile (isSpacedDigit 10)
  match s.drop whole.length with
  | '.' :: rest =>
    let exponent := rest.dropWhile (isSpacedDigit 10)
    isSpacedNumber whole && (exponent.isEmpty || isExponent (!isTidyNumber whole) exponent)
  | exponent => isTidyNumber whole && isExponent false exponent

/-- Whether an unsigned number counts sixtieths and has a point. -/
def isSexagesimalPoint (s : List Char) : Bool :=
  let whole := s.takeWhile (· ≠ '.')
  match s.drop whole.length with
  | '.' :: rest => isSexagesimal whole && rest.all (isSpacedDigit 10)
  | _ => false

/-- Whether what follows a leading point is a number. -/
def isFraction (s : List Char) : Bool :=
  let digits := s.takeWhile (isSpacedDigit 10)
  let exponent := s.drop digits.length
  isSpacedNumber digits && (exponent.isEmpty || isExponent true exponent)

def isFloatWord (s : List Char) : Bool :=
  match s with
  | '.' :: rest => (infinityWords ++ nanWords).contains (.ofList s) || isFraction rest
  | s =>
    let number := unsigned s
    isPointNumber number || isSexagesimalPoint number || infinityWords.contains (.ofList number)

/-- A text without the line feed at its end. -/
def dropLastBreak (s : List Char) : List Char :=
  if s.getLast? = some '\n' then s.dropLast else s

/-- The kind that a plain word has. A line feed at its end does not count. -/
def Tag.ofWord (given : String) : Tag :=
  let s := String.ofList (dropLastBreak given.toList)
  if given = "" then .null
  else if s = "" then .text
  else if nullWords.contains s then .null
  else if trueWords.contains s || falseWords.contains s then .bool
  else if s = "<<" then .merge
  else if s = "=" then .default
  else if isIntWord s.toList then .int
  else if isFloatWord s.toList then .float
  else .text

end ContactCard.Yaml
