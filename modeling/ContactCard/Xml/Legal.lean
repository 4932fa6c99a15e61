import ContactCard.Text.Ranges
import ContactCard.Xml.Element

/-!
# Characters XML can hold

XML 1.0 admits tab, LF, CR and the characters from space on, less two that are
no characters. Cleaning a tree deletes all others from its texts.
-/

namespace ContactCard.Xml

def legalRanges : Text.Ranges := [
  (0x9, 0xa), (0xd, 0xd), (0x20, 0xd7ff), (0xe000, 0xfffd), (0x10000, 0x10ffff)]

def isLegal (c : Char) : Bool := legalRanges.has c

def clean (s : String) : String := .ofList (s.toList.filter isLegal)

def isClean (s : String) : Bool := s.toList.all isLegal

mutual

/-- The tree with every text cleaned. -/
def cleanTree : Element → Element
  | ⟨tag, attributes, text, children⟩ => ⟨tag, attributes, text.map clean, cleanTrees children⟩

def cleanTrees : List Element → List Element
  | [] => []
  | child :: rest => cleanTree child :: cleanTrees rest

end

mutual

/-- Whether cleaning leaves every text as it is. -/
def isCleanTree : Element → Bool
  | ⟨_, _, text, children⟩ => text.all isClean && areCleanTrees children

def areCleanTrees : List Element → Bool
  | [] => true
  | child :: rest => isCleanTree child && areCleanTrees rest

end

end ContactCard.Xml
