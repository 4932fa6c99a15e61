import ContactCard.Description.Card
import ContactCard.Proofs.Fold

/-!
# The pieces of a description

A description is read piece by piece.  A piece is one entry at its place, or what stands where no
entry can be.  What a piece is read as does not depend on the pieces before it, so that a
description is the row of its pieces.
-/

namespace ContactCard.Description

/-- The keys of single texts. -/
inductive TextKey
  | fn
  | kind
  | mailer
  | member

/-- The keys of lists of texts. -/
inductive ListKey
  | nickname
  | categories
  | org

namespace TextKey

def word : TextKey → String
  | .fn => "fn"
  | .kind => "kind"
  | .mailer => "mailer"
  | .member => "member"

def make : TextKey → Option String → Property
  | .fn => .formattedName
  | .kind => .kind
  | .mailer => .mailer
  | .member => .member

end TextKey

namespace ListKey

def word : ListKey → String
  | .nickname => "nickname"
  | .categories => "categories"
  | .org => "org"

def make : ListKey → List String → Property
  | .nickname => .nickname
  | .categories => .categories
  | .org => .organization

end ListKey

inductive Piece
  | text (key : TextKey) (raw : Value)
  | list (key : ListKey) (raw : Value)
  | extended (raw : Value)
  /-- A key that no entries belong to. -/
  | unknown (key : Scalar)
  /-- A value without items in the place of the extended entries. -/
  | noItems

/-- The pieces that the value under a key is made of.  Members may come in a list, extended
entries always do. -/
def piecesUnder (key : Scalar) (raw : Value) : List Piece :=
  match key with
  | .text "fn" => [.text .fn raw]
  | .text "kind" => [.text .kind raw]
  | .text "mailer" => [.text .mailer raw]
  | .text "member" => (valuesOf raw).map (.text .member)
  | .text "nickname" => [.list .nickname raw]
  | .text "categories" => [.list .categories raw]
  | .text "org" => [.list .org raw]
  | .text "extended" =>
    if raw.holds then raw.items?.elim [.noItems] fun items => items.map .extended else []
  | key => [.unknown key]

/-- The pieces of a description in the order in which they are read. -/
def pieces : Value → List Piece
  | .mapping entries => entries.flatMap fun entry => piecesUnder entry.1 entry.2
  | _ => []

namespace Piece

def read : Piece → Except DescriptionError Property
  | .text key raw => textProperty key.word key.make raw
  | .list key raw => listProperty key.word key.make raw
  | .extended raw => extendedProperty raw
  | .unknown key => .error (DescriptionFault.unknownKey key).error
  | .noItems => .error .noItems

/-- Adds the property that a piece is read as. -/
def place (card : Card) : Piece → Property → Card
  | .extended _ => card.addExtended
  | _ => card.add

/-- Reads a piece and adds what it is read as. -/
def addTo (card : Card) (piece : Piece) : Except DescriptionError Card :=
  piece.place card <$> piece.read

end Piece

theorem foldlM_addTo_singleton (card : Card) (piece : Piece) :
    [piece].foldlM Piece.addTo card = piece.addTo card := by
  rw [List.foldlM_cons]
  exact bind_pure _

/-- What a key adds is what its pieces add, one after another. -/
theorem addKey_eq (card : Card) (key : Scalar) (raw : Value) :
    addKey card key raw = (piecesUnder key raw).foldlM Piece.addTo card := by
  fun_cases addKey card key raw with
  | case1 => exact (foldlM_addTo_singleton card (.text .fn raw)).symm
  | case2 => exact (foldlM_addTo_singleton card (.text .kind raw)).symm
  | case3 => exact (foldlM_addTo_singleton card (.text .mailer raw)).symm
  | case4 =>
      rw [piecesUnder, List.foldlM_map]
      rfl
  | case5 => exact (foldlM_addTo_singleton card (.list .nickname raw)).symm
  | case6 => exact (foldlM_addTo_singleton card (.list .categories raw)).symm
  | case7 => exact (foldlM_addTo_singleton card (.list .org raw)).symm
  | case8 =>
      rw [piecesUnder, extendedItems]
      split
      · cases raw.items? with
        | none => rfl
        | some items =>
            rw [Option.elim, List.foldlM_map]
            rfl
      · rfl
  | case9 =>
      rw [piecesUnder, foldlM_addTo_singleton]
      · rfl
      all_goals assumption

/-- A description is read as the row of its pieces. -/
theorem ofValue_eq_foldlM (entries : List (Scalar × Value)) :
    Card.ofValue (.mapping entries) = (pieces (.mapping entries)).foldlM Piece.addTo .empty := by
  rw [Card.ofValue, pieces]
  generalize Roster.empty = card
  induction entries generalizing card with
  | nil => rfl
  | cons entry rest ih =>
      rw [List.foldlM_cons, List.flatMap_cons, List.foldlM_append, addKey_eq]
      exact bind_congr fun next => ih next

end ContactCard.Description
