import ContactCard.Scalar

/-!
# Keys of mappings

What a mapping takes as a key: neither `null` nor a path, and of an integer and
the text that spells it only one.
-/

namespace ContactCard.Yaml

/-- What stands in the place of a key and is no scalar is like no other key. -/
instance : Key (Option Scalar) where
  same
    | some a, some b => Key.same a b
    | _, _ => false

/-- Whether two keys of one mapping cannot be told apart. -/
def collides : Scalar → Scalar → Bool
  | .int n, .text s | .text s, .int n => s == Integer.write n
  | _, _ => false

/-- Whether a mapping takes a key besides others. -/
def takesKey (others : List Scalar) : Scalar → Bool
  | .null | .path _ => false
  | key => !others.any (collides key)

end ContactCard.Yaml
