import ContactCard.Settings.Key
import ContactCard.Yaml.Root

/-!
# Overrides

Settings given as `key=value` on top of those of a file. The value is read as a
document, and the key names a place inside nested mappings and lists.
-/

namespace ContactCard.Override

/-- What can be wrong with an override: its value is unreadable, its key names
no place, its place lies behind the end of a list, a list on the way to its place
or at its end has no item of that name, or a list and a mapping lie one over the
other. -/
inductive OverrideError
  | unreadable (e : Yaml.ReadError)
  | noPlace
  | noItem
  | badStep (name : String)
  | badItem (name : String) (e : Integer.IntegerError)
  | clash
  deriving Repr

def isPending (v : Value) : Bool := v matches .scalar (.text "???")

mutual

/-- Lays a value over another: mappings are laid over each other key by key, a
list and a mapping clash, a value still to be given leaves what is there, and
all else is replaced. -/
def overlay (base : Value) : Value → Option Value
  | .mapping entries =>
    match base with
    | .mapping old => (overlayEntries old entries).map Value.mapping
    | .list _ => none
    | .scalar _ | .pair _ _ => some (.mapping entries)
  | .list items =>
    match base with
    | .mapping _ => none
    | .list _ | .scalar _ | .pair _ _ => some (.list items)
  | .scalar s => some (if isPending (.scalar s) then base else .scalar s)
  | .pair first second => some (.pair first second)

def overlayEntries (base : List (Scalar × Value)) :
    List (Scalar × Value) → Option (List (Scalar × Value))
  | [] => some base
  | (key, value) :: rest =>
    match Keyed.lookup base key with
    | some old =>
      match overlay old value with
      | some laid => overlayEntries (Keyed.insert base key laid) rest
      | none => none
    | none => overlayEntries (Keyed.insert base key value) rest

end

def isCollection : Value → Bool
  | .scalar _ | .pair _ _ => false
  | .list _ | .mapping _ => true

/-- The position of an item in a list of some size. Negative numbers count from
the end. -/
def position? (size : Nat) (n : Int) : Option Nat :=
  if 0 ≤ n ∧ n < size then some n.toNat
  else if n < 0 ∧ 0 ≤ n + size then some (n + size).toNat
  else none

/-- What a place holds after a value is given for it: two collections are laid
over each other, and all else is replaced. -/
def replaced (old : Option Value) (v : Value) : Except OverrideError Value :=
  match old with
  | some old =>
    if isCollection old && isCollection v then
      match overlay old v with
      | some laid => .ok laid
      | none => .error .clash
    else .ok v
  | none => .ok v

/-- The collection to go on in; what is none is replaced by a mapping. -/
def entered (old : Option Value) : Value :=
  match old with
  | some old => if isCollection old then old else .mapping []
  | none => .mapping []

/-- The key of a mapping that a name stands for: the text itself, or an integer
that the name spells when only that is a key. -/
def keyNamed (entries : Keyed Scalar Value) (name : String) : Scalar :=
  if entries.has (.text name) then .text name
  else
    match Integer.read? name with
    | some n => if entries.keys.contains (.int n) then .int n else .text name
    | none => .text name

/-- Sets the value at a place. -/
def assign (v : Value) : List String → Value → Except OverrideError Value
  | [], _ => .error .noPlace
  | name :: rest, .mapping entries => do
    let key := keyNamed entries name
    let old := Keyed.lookup entries key
    let new ← if rest.isEmpty then replaced old v else assign v rest (entered old)
    return .mapping (Keyed.insert entries key new)
  | name :: rest, .list items =>
    match Integer.parse 10 name.toList with
    | .error e => .error (if rest.isEmpty then .badItem name e else .badStep name)
    | .ok n =>
      match position? items.length n with
      | none => .error .noItem
      | some i => do
        let old := items[i]?
        let new ← if rest.isEmpty then replaced old v else assign v rest (entered old)
        return .list (items.set i new)
  | _ :: _, v => .ok v

/-- The value that an override gives, `null` if it gives none. -/
def valueOf (written : Option String) : Except OverrideError Value :=
  match written with
  | none => .ok .null
  | some s => (Yaml.read s).mapError OverrideError.unreadable

/-- The mapping that some overrides describe, in order. -/
def collect (overrides : List String) : Except OverrideError Value :=
  overrides.foldlM (fun root override => do
    let (key, written) := Key.split override
    assign (← valueOf written) (Key.place key) root) (.mapping [])

end ContactCard.Override
