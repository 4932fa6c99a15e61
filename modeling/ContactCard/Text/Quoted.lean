import ContactCard.Text.Printable

/-!
# Quoted text

Text inside a list or mapping is shown in quotes: single ones, or double ones
when it holds single quotes and no double quote. Backslashes, the chosen quote
and characters that are not printable are escaped. Bytes are shown likewise, where
only ASCII characters count as printable.
-/

namespace ContactCard.Text

namespace Quoted

/-- Lower-case hexadecimal digits, padded with zeros to a width. -/
def hex (width n : Nat) : List Char :=
  let digits := Nat.toDigits 16 n
  List.replicate (width - digits.length) '0' ++ digits

def chooseQuote (s : List Char) : Char :=
  if s.contains '\'' && !s.contains '"' then '"' else '\''

def encodeChar (quote c : Char) : List Char :=
  if c = quote || c = '\\' then ['\\', c]
  else if c = '\t' then ['\\', 't']
  else if c = '\n' then ['\\', 'n']
  else if c = '\r' then ['\\', 'r']
  else if isPrintable c then [c]
  else if c.toNat < 0x100 then '\\' :: 'x' :: hex 2 c.toNat
  else if c.toNat < 0x10000 then '\\' :: 'u' :: hex 4 c.toNat
  else '\\' :: 'U' :: hex 8 c.toNat

def encode (s : List Char) : List Char :=
  let quote := chooseQuote s
  quote :: (s.flatMap (encodeChar quote) ++ [quote])

def encodeByte (quote : Char) (b : UInt8) : List Char :=
  if b < 0x80 then encodeChar quote (Char.ofNat b.toNat) else '\\' :: 'x' :: hex 2 b.toNat

end Quoted

def quoted (s : String) : String := .ofList (Quoted.encode s.toList)

/-- Bytes in quotes. -/
def quotedBytes (bytes : List UInt8) : String :=
  let quote := Quoted.chooseQuote (bytes.map fun b => Char.ofNat b.toNat)
  .ofList ('b' :: quote :: (bytes.flatMap (Quoted.encodeByte quote) ++ [quote]))

end ContactCard.Text
