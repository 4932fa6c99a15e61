import ContactCard.Keyed
import ContactCard.Text.Blank
import ContactCard.Xml.Element

/-!
# XML text

An element tree as XML text. One namespace is the default; others are numbered
in the order in which they come up, and all are declared on the root in the
order of their labels. With indentation every child starts a line of its own,
two spaces deeper than its parent.
-/

namespace ContactCard.Xml

/-- Namespaces with the labels that stand for them; the default has none. -/
abbrev Spaces := Keyed String String

/-- Makes the namespace of a tag known; its label counts those known before. -/
def Spaces.learn (home tag : String) (spaces : Spaces) : Spaces :=
  match Tag.split? tag with
  | none => spaces
  | some (uri, _) =>
    if spaces.has uri then spaces
    else
      let label := if uri = home then "" else "ns" ++ toString spaces.length
      spaces ++ [(uri, label)]

mutual

/-- The namespaces of a tree in document order. -/
def learnTree (home : String) (spaces : Spaces) : Element → Spaces
  | ⟨tag, _, _, children⟩ => learnTrees home (spaces.learn home tag) children

def learnTrees (home : String) (spaces : Spaces) : List Element → Spaces
  | [] => spaces
  | child :: rest => learnTrees home (learnTree home spaces child) rest

end

/-- A tag as it is written. -/
def Spaces.written (spaces : Spaces) (tag : String) : String :=
  match Tag.split? tag with
  | none => tag
  | some (uri, name) =>
    match spaces.lookup uri with
    | none | some "" => name
    | some label => label ++ ":" ++ name

def escapeText (s : String) : String :=
  .ofList (s.toList.flatMap fun c =>
    if c = '&' then "&amp;".toList
    else if c = '<' then "&lt;".toList
    else if c = '>' then "&gt;".toList
    else [c])

def escapeAttribute (s : String) : String :=
  .ofList (s.toList.flatMap fun c =>
    if c = '&' then "&amp;".toList
    else if c = '<' then "&lt;".toList
    else if c = '>' then "&gt;".toList
    else if c = '"' then "&quot;".toList
    else if c = '\r' then "&#13;".toList
    else if c = '\n' then "&#10;".toList
    else if c = '\t' then "&#09;".toList
    else [c])

def assignment (name value : String) : String :=
  " " ++ name ++ "=\"" ++ escapeAttribute value ++ "\""

def Spaces.declarations (spaces : Spaces) : String :=
  let ordered := spaces.mergeSort fun a b => a.2 ≤ b.2
  String.join (ordered.map fun entry =>
    assignment (if entry.2 = "" then "xmlns" else "xmlns:" ++ entry.2) entry.1)

/-- The line break before an element at a depth, if lines are broken at all. -/
def gap (indent : Bool) (depth : Nat) : String :=
  if indent then .ofList ('\n' :: List.replicate (2 * depth) ' ') else ""

/-- What stands before the children of an element: its own text, for which
blank text makes room when lines are broken. -/
def leading (indent : Bool) (depth : Nat) (text : Option String) : String :=
  let own := text.getD ""
  if indent && (Text.stripChars own.toList).isEmpty then gap indent (depth + 1)
  else escapeText own

mutual

def writeTree (spaces : Spaces) (indent : Bool) (declarations : String) (depth : Nat) :
    Element → String
  | ⟨tag, attributes, text, children⟩ =>
    let name := spaces.written tag
    let start := "<" ++ name ++ declarations
      ++ String.join (attributes.map fun entry => assignment entry.1 entry.2.spell)
    let stop := "</" ++ name ++ ">"
    match children with
    | [] =>
      let own := text.getD ""
      if own = "" then start ++ " />" else start ++ ">" ++ escapeText own ++ stop
    | first :: rest =>
      start ++ ">" ++ leading indent depth text ++ writeTree spaces indent "" (depth + 1) first
        ++ writeTrees spaces indent depth rest ++ stop

/-- The children after the first, each after its line break, and the line break
of the closing tag. -/
def writeTrees (spaces : Spaces) (indent : Bool) (depth : Nat) : List Element → String
  | [] => gap indent depth
  | child :: rest =>
    gap indent (depth + 1) ++ writeTree spaces indent "" (depth + 1) child
      ++ writeTrees spaces indent depth rest

end

mutual

/-- The first attribute in document order that is no text. -/
def badAttribute? : Element → Option Scalar
  | ⟨_, attributes, _, children⟩ =>
    ((attributes.map (·.2)).find? fun value => !value.isText).or (badAttributeIn? children)

def badAttributeIn? : List Element → Option Scalar
  | [] => none
  | child :: rest => (badAttribute? child).or (badAttributeIn? rest)

end

/-- The tree as text, unless some attribute is no text. -/
def write (home : String) (indent : Bool) (root : Element) : Except Scalar String :=
  match badAttribute? root with
  | some value => .error value
  | none =>
    let spaces := learnTree home [] root
    .ok (writeTree spaces indent spaces.declarations 0 root)

/-- The line in front of a document that is written as bytes. -/
def declaration : String := "<?xml version='1.0' encoding='utf-8'?>\n"

end ContactCard.Xml
