import ContactCard.Keyed
import ContactCard.Moment.Layout
import ContactCard.Session.Template.Shape
import ContactCard.Text.Quoted

/-!
# Parts of the time

What the field of a template can stand for: the time itself, or something that is
reached from it by the names of parts. Of a part that is neither a text nor a
number only its text counts.
-/

namespace ContactCard.Template

/-- What can be wrong with a template: its braces or the form of a field, a name
that is not known, a part that there is not, a use that a part is not made for, or a
place behind the end of a text. -/
inductive TemplateError
  | malformed
  | unknownField
  | unknownPart
  | unsuited
  | noPlace
  deriving DecidableEq, Repr

/-- The time as a whole, its moment, and what these are made of. -/
inductive Part
  | time (m : Moment)
  | moment (m : Moment)
  | number (n : Nat)
  | text (s : String)
  | nothing
  | table (entries : List (String × Part))
  | thing (name : String)

namespace Part

/-! ## Names of parts -/

/-- The parts that everything has, besides its class and its description. -/
def commonNames : List String := [
  "__delattr__", "__dir__", "__eq__", "__format__", "__ge__", "__getattribute__", "__getstate__",
  "__gt__", "__hash__", "__init__", "__init_subclass__", "__le__", "__lt__", "__ne__", "__new__",
  "__reduce__", "__reduce_ex__", "__repr__", "__setattr__", "__sizeof__", "__str__",
  "__subclasshook__"]

def momentNames : List String := [
  "__add__", "__radd__", "__rsub__", "__sub__", "astimezone", "combine", "ctime", "date", "dst",
  "fromisocalendar", "fromisoformat", "fromordinal", "fromtimestamp", "isocalendar", "isoformat",
  "isoweekday", "max", "min", "now", "replace", "resolution", "strftime", "strptime", "time",
  "timestamp", "timetuple", "timetz", "today", "toordinal", "tzname", "utcfromtimestamp", "utcnow",
  "utcoffset", "utctimetuple", "weekday"]

def numberNames : List String := [
  "__abs__", "__add__", "__and__", "__bool__", "__ceil__", "__divmod__", "__float__", "__floor__",
  "__floordiv__", "__getnewargs__", "__index__", "__int__", "__invert__", "__lshift__", "__mod__",
  "__mul__", "__neg__", "__or__", "__pos__", "__pow__", "__radd__", "__rand__", "__rdivmod__",
  "__rfloordiv__", "__rlshift__", "__rmod__", "__rmul__", "__ror__", "__round__", "__rpow__",
  "__rrshift__", "__rshift__", "__rsub__", "__rtruediv__", "__rxor__", "__sub__", "__truediv__",
  "__trunc__", "__xor__", "as_integer_ratio", "bit_count", "bit_length", "conjugate", "from_bytes",
  "to_bytes"]

def textNames : List String := [
  "__add__", "__contains__", "__getitem__", "__getnewargs__", "__iter__", "__len__", "__mod__",
  "__mul__", "__rmod__", "__rmul__", "capitalize", "casefold", "center", "count", "encode",
  "endswith", "expandtabs", "find", "format", "format_map", "index", "isalnum", "isalpha",
  "isascii", "isdecimal", "isdigit", "isidentifier", "islower", "isnumeric", "isprintable",
  "isspace", "istitle", "isupper", "join", "ljust", "lower", "lstrip", "maketrans", "partition",
  "removeprefix", "removesuffix", "replace", "rfind", "rindex", "rjust", "rpartition", "rsplit",
  "rstrip", "split", "splitlines", "startswith", "strip", "swapcase", "title", "translate", "upper",
  "zfill"]

def tableNames : List String := [
  "__class_getitem__", "__contains__", "__delitem__", "__getitem__", "__ior__", "__iter__",
  "__len__", "__or__", "__reversed__", "__ror__", "__setitem__", "clear", "copy", "fromkeys", "get",
  "items", "keys", "pop", "popitem", "setdefault", "update", "values"]

/-- The name of the class of a part. -/
def className : Part → String
  | .time _ => "FileDateFormatter"
  | .moment _ => "datetime"
  | .number _ => "int"
  | .text _ => "str"
  | .nothing => "NoneType"
  | .table _ => "dict"
  | .thing _ => "type"

/-- A part that is only known by its name, if it is one of some names. -/
def thing? (names : List String) (name : String) : Option Part :=
  if names.contains name then some (.thing name) else none

/-- The parts of a moment. -/
def momentPart? (m : Moment) (name : String) : Option Part :=
  match name with
  | "year" => some (.number m.date.year)
  | "month" => some (.number m.date.month)
  | "day" => some (.number m.date.day)
  | "hour" => some (.number m.hour)
  | "minute" => some (.number m.minute)
  | "second" => some (.number m.second)
  | "microsecond" => some (.number m.micros)
  | "fold" => some (.number 0)
  | "tzinfo" => some (.thing "UTC")
  | "__dict__" => some (.table [])
  | "__module__" => some (.text "datetime")
  | "__weakref__" => some .nothing
  | _ => thing? momentNames name

/-- What a part has under a name. -/
def attribute? (p : Part) (name : String) : Option Part :=
  let own : Option Part :=
    match p, name with
    | .time m, "datetime" => some (.moment m)
    | .time m, "__dict__" => some (.table [("datetime", .moment m)])
    | .time _, "__module__" => some (.text "time")
    | .time _, "__weakref__" => some .nothing
    | .time _, _ => none
    | .moment m, _ => momentPart? m name
    | .number n, "real" | .number n, "numerator" => some (.number n)
    | .number _, "imag" => some (.number 0)
    | .number _, "denominator" => some (.number 1)
    | .number _, _ => thing? numberNames name
    | .text _, _ => thing? textNames name
    | .nothing, _ => thing? ["__bool__"] name
    | .table _, _ => thing? tableNames name
    | .thing shown, "__name__" | .thing shown, "__qualname__" => some (.text shown)
    | .thing _, "__module__" => some (.text "time")
    | .thing _, _ => none
  let common : Option Part :=
    match name with
    | "__class__" => some (.thing p.className)
    | "__doc__" => some .nothing
    | _ => thing? commonNames name
  own.or common

/-- A name as a place, if it is a number. -/
def place? (name : List Char) : Option Nat :=
  if name.all fun c => (Text.digitValue? c).isSome then
    some ((name.filterMap Text.digitValue?).foldl (fun n d => 10 * n + d) 0)
  else none

/-- What a part has under a key or at a place. -/
def item (p : Part) (name : List Char) : Except TemplateError Part :=
  if (place? name).any (Shape.greatestNumber < ·) then .error .malformed
  else
    match p, place? name with
    | .text s, some n =>
      match s.toList[n]? with
      | some c => .ok (.text (String.singleton c))
      | none => .error .noPlace
    | .table _, some _ => .error .unknownField
    | .table entries, none =>
      match entries.lookup (.ofList name) with
      | some part => .ok part
      | none => .error .unknownField
    | _, _ => .error .unsuited

/-- The part at the end of a way from a part, on which names stand behind points or
in brackets. -/
def follow (p : Part) : List Char → Except TemplateError Part
  | [] => .ok p
  | c :: rest =>
    if c = '.' then
      let name := rest.takeWhile fun c => c ≠ '.' ∧ c ≠ '['
      if name.isEmpty then .error .malformed
      else
        match p.attribute? (.ofList name) with
        | some next => next.follow (rest.drop name.length)
        | none => .error .unknownPart
    else
      let name := rest.takeWhile (· ≠ ']')
      if c ≠ '[' ∨ name.isEmpty ∨ name.length = rest.length then .error .malformed
      else
        match p.item name with
        | .ok next => next.follow (rest.drop (name.length + 1))
        | .error e => .error e
termination_by s => s.length
decreasing_by all_goals simp only [List.length_drop, List.length_cons]; omega

/-! ## Texts of parts -/

/-- How long the text of the time as a whole is. -/
def timeTextLength : Nat := 62

def momentText (m : Moment) : List Char :=
  let layout :=
    if m.micros = 0 then "%Y-%m-%d %H:%M:%S+00:00" else "%Y-%m-%d %H:%M:%S.%f+00:00"
  (m.write? layout.toList).getD []

/-- The text of a part. -/
def shown : Part → List Char
  | .time m =>
    let text := "<" ++ Part.className (.time m) ++ " object"
    text.toList ++ List.replicate (timeTextLength - 1 - text.length) ' ' ++ ['>']
  | .moment m => momentText m
  | .number n => Nat.toDigits 10 n
  | .text s => s.toList
  | .nothing => "None".toList
  | .table entries =>
    '\x7b' :: (", ".toList.intercalate (entries.map (·.1.toList)) ++ ['\x7d'])
  | .thing name => name.toList

/-- The text of a part where texts stand in quotes. -/
def quoted : Part → List Char
  | .text s => Text.Quoted.encode s.toList
  | p => p.shown

/-- How the time is written where nothing is said about it. -/
def usualTimeLayout : List Char := "%Y-%m-%d_%H-%M-%S_%f".toList

def refused (written : Option (List Char)) : Except TemplateError (List Char) :=
  match written with
  | some s => .ok s
  | none => .error .malformed

/-- A part in the layout of its field. -/
def write (p : Part) (layout : List Char) : Except TemplateError (List Char) :=
  match p with
  | .time m => refused (m.write? (if layout.isEmpty then usualTimeLayout else layout))
  | .moment m => refused (m.write? layout)
  | .number n =>
    if layout.isEmpty then .ok p.shown else refused ((Shape.read? layout).bind (·.natural? n))
  | .text s =>
    if layout.isEmpty then .ok p.shown else refused ((Shape.read? layout).bind (·.text? s.toList))
  | .nothing | .table _ | .thing _ => if layout.isEmpty then .ok p.shown else .error .unsuited

end Part

end ContactCard.Template
