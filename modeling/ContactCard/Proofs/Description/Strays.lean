import ContactCard.Proofs.Description.Contents

/-!
# Keys that a place does not take

A description with a stray key, at its root or in a text or list entry, is never read.  In the
extended entries nothing looks for such keys, so there they make no difference: whatever the
description comes to, it comes to the same without them.
-/

namespace ContactCard.Description

/-- The words that an extended entry may have. -/
def extendedWords : List String := "name" :: entryWords "value"

namespace Piece

def IsExtended (piece : Piece) : Prop := ∃ raw, piece = .extended raw

/-- The keys of a piece that its place does not take. -/
def strays : Piece → List Scalar
  | .text _ raw => straysIn (entryWords "value") raw
  | .list _ raw => straysIn (entryWords "values") raw
  | .extended raw => straysIn extendedWords raw
  | .unknown key => [key]
  | .noItems => []

/-- A piece with stray keys can only be read if it is an extended entry. -/
theorem IsReadable.isExtended {piece : Piece} (hpiece : piece.IsReadable)
    (hstrays : piece.strays ≠ []) : piece.IsExtended := by
  cases piece with
  | text key raw => exact absurd hpiece.1 hstrays
  | list key raw => exact absurd hpiece.1 hstrays
  | extended raw => exact ⟨raw, rfl⟩
  | unknown key => exact hpiece.elim
  | noItems => exact hpiece.elim

end Piece

/-! ## Without the stray keys -/

/-- An entry with some words for its only keys. -/
def trimmedTo (words : List String) : Value → Value
  | .mapping entries => .mapping (entries.filter fun entry => entry.1 ∈ words.map Scalar.text)
  | v => v

/-- Extended entries without their stray keys. -/
def trimmedItems : Value → Value
  | .list items => .list (items.map (trimmedTo extendedWords))
  | .pair first second => .pair (trimmedTo extendedWords first) (trimmedTo extendedWords second)
  | v => v

def trimmedUnder (key : Scalar) (raw : Value) : Value :=
  if key = .text "extended" then trimmedItems raw else raw

/-- A description without the stray keys of its extended entries. -/
def trimmed : Value → Value
  | .mapping entries => .mapping (entries.map fun entry => (entry.1, trimmedUnder entry.1 entry.2))
  | v => v

def Piece.trimmed : Piece → Piece
  | .extended raw => .extended (trimmedTo extendedWords raw)
  | piece => piece

theorem straysIn_trimmedTo (words : List String) (raw : Value) :
    straysIn words (trimmedTo words raw) = [] := by
  cases raw with
  | mapping entries =>
      rw [trimmedTo, straysIn, Keyed.keys, List.filter_eq_nil_iff]
      intro key hkey
      obtain ⟨entry, hentry, rfl⟩ := List.mem_map.1 hkey
      simpa using (List.mem_filter.1 hentry).2
  | scalar s => rfl
  | list items => rfl
  | pair first second => rfl

/-- What stands under a word is not touched. -/
theorem lookup_filter {words : List String} {word : String} (hword : word ∈ words)
    (entries : Keyed Scalar Value) :
    Keyed.lookup (entries.filter fun entry => entry.1 ∈ words.map Scalar.text) (.text word) =
      entries.lookup (.text word) := by
  rw [Keyed.lookup, Keyed.lookup, List.find?_filter]
  congr 2
  funext entry
  rw [Bool.eq_iff_iff, decide_eq_true_iff]
  refine and_iff_right_of_imp fun hsame => decide_eq_true ?_
  rw [same_text_iff.1 hsame]
  exact List.mem_map_of_mem hword

theorem under_filter {words : List String} {word : String} (hword : word ∈ words)
    (entries : Keyed Scalar Value) :
    under (entries.filter fun entry => entry.1 ∈ words.map Scalar.text) word =
      under entries word := by
  rw [under, under, lookup_filter hword]

/-- An extended entry is read without a look at its stray keys. -/
theorem extendedProperty_trimmedTo (raw : Value) :
    extendedProperty (trimmedTo extendedWords raw) = extendedProperty raw := by
  cases raw with
  | mapping entries =>
      have hname : "name" ∈ extendedWords := by decide
      have hvalue : "value" ∈ extendedWords := by decide
      have hgroup : "group" ∈ extendedWords := by decide
      have hparameters : "parameters" ∈ extendedWords := by decide
      rw [trimmedTo, extendedProperty, extendedProperty, lookup_filter hname,
        under_filter hvalue, under_filter hgroup, under_filter hparameters]
  | scalar s => rfl
  | list items => rfl
  | pair first second => rfl

theorem Piece.addTo_trimmed (card : Card) (piece : Piece) :
    piece.trimmed.addTo card = piece.addTo card := by
  cases piece with
  | extended raw => exact congrArg (card.addExtended <$> ·) (extendedProperty_trimmedTo raw)
  | text key raw => rfl
  | list key raw => rfl
  | unknown key => rfl
  | noItems => rfl

theorem holds_trimmedItems (v : Value) : (trimmedItems v).holds = v.holds := by
  cases v with
  | list items => cases items <;> rfl
  | mapping entries => rfl
  | scalar s => rfl
  | pair first second => rfl

theorem items?_trimmedItems (v : Value) :
    (trimmedItems v).items? = v.items?.map (List.map (trimmedTo extendedWords)) := by
  cases v with
  | list items => rfl
  | mapping entries => simp [trimmedItems, Value.items?, trimmedTo]
  | pair first second => rfl
  | scalar s => cases s <;> simp [trimmedItems, Value.items?, trimmedTo]

theorem piecesUnder_trimmedItems (raw : Value) :
    piecesUnder (.text "extended") (trimmedItems raw) =
      (piecesUnder (.text "extended") raw).map Piece.trimmed := by
  rw [piecesUnder, piecesUnder, holds_trimmedItems, items?_trimmedItems]
  split
  · cases raw.items? with
    | none => rfl
    | some items => simp [Piece.trimmed]
  · rfl

theorem piecesUnder_trimmedUnder (key : Scalar) (raw : Value) :
    piecesUnder key (trimmedUnder key raw) = (piecesUnder key raw).map Piece.trimmed := by
  by_cases hkey : key = .text "extended"
  · rw [hkey, trimmedUnder, if_pos rfl, piecesUnder_trimmedItems]
  · have hpieces : (piecesUnder key raw).map Piece.trimmed = piecesUnder key raw := by
      fun_cases piecesUnder key raw with
      | case4 => simp [Piece.trimmed]
      | case8 => exact absurd rfl hkey
      | case9 => exact absurd rfl hkey
      | _ => rfl
    rw [trimmedUnder, if_neg hkey, hpieces]

theorem pieces_trimmed (v : Value) : pieces (trimmed v) = (pieces v).map Piece.trimmed := by
  cases v with
  | mapping entries =>
      rw [trimmed, pieces, pieces, List.flatMap_map, List.map_flatMap]
      simp only [piecesUnder_trimmedUnder]
  | scalar s => rfl
  | list items => rfl
  | pair first second => rfl

theorem ofValue_trimmed (v : Value) : Card.ofValue (trimmed v) = Card.ofValue v := by
  cases v with
  | mapping entries =>
      have hpieces := pieces_trimmed (.mapping entries)
      rw [trimmed] at hpieces ⊢
      rw [ofValue_eq_foldlM, ofValue_eq_foldlM, hpieces, List.foldlM_map]
      simp only [Piece.addTo_trimmed]
  | scalar s => rfl
  | list items => rfl
  | pair first second => rfl

/-! ## Descriptions with stray keys -/

/-- What stray keys do to a description: outside the extended entries they keep it from being
read, and those in the extended entries are as good as absent. -/
structure HandlesStrays (v : Value) : Prop where
  refused : (∃ piece ∈ pieces v, piece.strays ≠ [] ∧ ¬piece.IsExtended) →
    ∀ card, Card.ofValue v ≠ .ok card
  ignored : Card.ofValue (trimmed v) = Card.ofValue v
  strays_trimmed : ∀ piece ∈ pieces (trimmed v), piece.IsExtended → piece.strays = []

theorem handlesStrays (v : Value) : HandlesStrays v := by
  constructor
  case refused =>
    rintro ⟨piece, hpiece, hstrays, hplace⟩ card hcard
    exact hplace ((isReadable_of_ofValue hcard piece hpiece).isExtended hstrays)
  case ignored => exact ofValue_trimmed v
  case strays_trimmed =>
    rintro piece hpiece ⟨raw, rfl⟩
    rw [pieces_trimmed] at hpiece
    obtain ⟨untrimmed, -, hextended⟩ := List.mem_map.1 hpiece
    cases untrimmed with
    | extended other =>
        obtain rfl := Piece.extended.inj hextended
        exact straysIn_trimmedTo extendedWords other
    | text key other => cases hextended
    | list key other => cases hextended
    | unknown key => cases hextended
    | noItems => cases hextended

/-- A description with a colour in an extended entry, which is no key of such an entry. -/
def colouredDescription : Value := .mapping [
  (.text "fn", .text "Ann"),
  (.text "extended", .list [.mapping [
    (.text "name", .text "X-A"), (.text "value", .text "1"), (.text "colour", .text "red")]])]

/-- The same key in a text entry would be a fault; here it goes unnoticed. -/
theorem not_refused_colouredDescription :
    (∃ piece ∈ pieces colouredDescription, .text "colour" ∈ piece.strays) ∧
      ∃ card, Card.ofValue colouredDescription = .ok card ∧
        card.properties.map (·.name) = ["FN", "X-A"] :=
  ⟨⟨.extended _, List.mem_cons_of_mem _ List.mem_cons_self, by decide⟩, _, rfl, rfl⟩

end ContactCard.Description
