import ContactCard.Scalar
import ContactCard.Version

/-!
# XML elements

Elements as trees. A tag is stored qualified, as `{namespace}local`; the local
name of a tag is what follows its last closing brace.
-/

namespace ContactCard

structure Element where
  tag : String
  attributes : List (String × Scalar) := []
  text : Option String := none
  children : List Element := []
  deriving Repr, Inhabited

namespace Tag

def qualify (version : Version) (name : String) : String :=
  "\x7b" ++ version.xmlNamespace ++ "\x7d" ++ name

/-- What follows the last closing brace. -/
def localChars (tag : List Char) : List Char := (tag.reverse.takeWhile (· ≠ '}')).reverse

def localName (tag : String) : String := .ofList (localChars tag.toList)

/-- The namespace and local name of a qualified tag. -/
def split? (tag : String) : Option (String × String) :=
  match tag.toList with
  | '{' :: rest =>
    match rest.reverse.dropWhile (· ≠ '}') with
    | _ :: before => some (.ofList before.reverse, localName tag)
    | [] => none
  | _ => none

end Tag

namespace Element

/-- An element without content. -/
def create (version : Version) (name : String) : Element where
  tag := Tag.qualify version name

/-- An element that holds text alone. -/
def ofText (version : Version) (name text : String) : Element where
  tag := Tag.qualify version name
  text := some text

/-- An element that holds other elements alone. -/
def ofChildren (version : Version) (name : String) (children : List Element) : Element where
  tag := Tag.qualify version name
  children := children

def name (e : Element) : String := Tag.localName e.tag

/-- Adds one child for every text. -/
def appendTexts (e : Element) (version : Version) (name : String) (texts : List String) :
    Element where
  tag := e.tag
  attributes := e.attributes
  text := e.text
  children := e.children ++ texts.map (ofText version name)

/-- The texts of the children with a local name, of whatever namespace; a child
without text counts as empty. -/
def texts (e : Element) (name : String) : List String :=
  (e.children.filter fun child => child.name == name).map fun child => child.text.getD ""

def firstText? (e : Element) (name : String) : Option String := (e.texts name).head?

end Element

end ContactCard
