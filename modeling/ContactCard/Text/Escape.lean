import ContactCard.Text.LineBreak

/-!
# Backslash escapes

Values are put into delimited text with their backslashes, delimiters and line
breaks escaped. Escaping is a row of replacements: first backslashes, then the
delimiter, then line breaks, each over the result of the one before.
-/

namespace ContactCard.Text

namespace Escape

/-- Writes every line break as a backslash and an `n`. -/
def encodeBreaks (s : List Char) : List Char := replaceBreaks ['\\', 'n'] s

/-- Escapes a value for text delimited by `separator`. A backslash as the
delimiter is escaped as a backslash only. -/
def encode (separator : Char) (s : List Char) : List Char :=
  let doubled := replaceChar '\\' ['\\', '\\'] s
  encodeBreaks
    (if separator = '\\' then doubled else replaceChar separator ['\\', separator] doubled)

/-- Escapes free text, in which both commas and semicolons may delimit. -/
def encodeText (s : List Char) : List Char := replaceChar ';' ['\\', ';'] (encode ',' s)

/-- What an escaped character stands for. -/
def meaning (c : Char) : Char := if c = 'n' || c = 'N' then '\n' else c

/-- Reads escapes back. A lone backslash at the end stands for itself. -/
def decode : List Char → List Char
  | [] => []
  | [c] => [c]
  | c :: d :: rest => if c = '\\' then meaning d :: decode rest else c :: decode (d :: rest)

end Escape

def escapeBreaks (s : String) : String := .ofList (Escape.encodeBreaks s.toList)

def escape (separator : Char) (s : String) : String := .ofList (Escape.encode separator s.toList)

def escapeText (s : String) : String := .ofList (Escape.encodeText s.toList)

def unescape (s : String) : String := .ofList (Escape.decode s.toList)

@[simp]
theorem toList_escapeBreaks (s : String) :
    (escapeBreaks s).toList = Escape.encodeBreaks s.toList := by
  simp [escapeBreaks]

@[simp]
theorem toList_escape (separator : Char) (s : String) :
    (escape separator s).toList = Escape.encode separator s.toList := by
  simp [escape]

@[simp]
theorem toList_escapeText (s : String) : (escapeText s).toList = Escape.encodeText s.toList := by
  simp [escapeText]

@[simp]
theorem toList_unescape (s : String) : (unescape s).toList = Escape.decode s.toList := by
  simp [unescape]

end ContactCard.Text
