import ContactCard.Parameters
import ContactCard.Text.Caret

/-!
# Parameters on a line

The parameters of a plain-text property as they stand between its name and its
value: `;NAME=v1,v2` for every name. Values are caret-encoded, and quoted when
they hold a comma, semicolon or colon.
-/

namespace ContactCard.Parameters

def needsQuotes (s : String) : Bool := s.toList.any fun c => c = ',' || c = ';' || c = ':'

def lineValue (value : String) : String :=
  let encoded := Text.encodeCaret value
  if needsQuotes encoded then "\"" ++ encoded ++ "\"" else encoded

def lineSegment (entry : String × List String) : String :=
  ";" ++ entry.1 ++ "=" ++ ",".intercalate (entry.2.map lineValue)

def line (t : Parameters) : String := String.join (t.entries.map lineSegment)

end ContactCard.Parameters
