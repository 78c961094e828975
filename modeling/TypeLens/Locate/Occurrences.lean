/-
# TypeLens.Locate.Occurrences -- non-overlapping occurrences from left to right

A reader looks at one place of a line: the character before it and the text after it. It answers
with what it found there and how many characters that takes. `occurrences` tries a reader at every
place from left to right and goes on behind each find, so two finds never overlap.
-/
import TypeLens.Locate.Span
import TypeLens.Text.WordChar

namespace TypeLens

/-! ## Places between characters -/

/-- Whether a character is there and belongs to a word. -/
def inWord : Option Char → Bool
  | some c => isWordChar c
  | none => false

/-- Whether exactly one of the two characters around a place belongs to a word. -/
def isBoundary (before after : Option Char) : Bool := inWord before != inWord after

/-! ## Readers -/

/-- What a reader found at a place, and the number of characters it takes. -/
structure Found (α : Type) where
  value : α
  width : Nat
deriving Repr

/-- A reader sees the character before a place and the text from there on. -/
abbrev Reader (α : Type) := Option Char → Text → Option (Found α)

/-- What a reader finds in a text that starts at offset `start` behind the character `before`. The
first `skip` characters belong to an earlier find and are passed over. -/
def occurrencesFrom {α : Type} (read : Reader α) (start : Nat) (before : Option Char) :
    (skip : Nat) → Text → List (Nat × Found α)
  | _, [] => []
  | skip + 1, c :: rest => occurrencesFrom read (start + 1) (some c) skip rest
  | 0, c :: rest =>
    match read before (c :: rest) with
    | some found =>
      (start, found) :: occurrencesFrom read (start + 1) (some c) (found.width - 1) rest
    | none => occurrencesFrom read (start + 1) (some c) 0 rest

/-- Everything a reader finds in a line, each find with its offset. -/
def occurrences {α : Type} (read : Reader α) (line : Text) : List (Nat × Found α) :=
  occurrencesFrom read 0 none 0 line

/-- The part of a line that a find takes. -/
def Found.slice {α : Type} (found : Found α) (start : Nat) (line : Text) : Text :=
  (line.drop start).take found.width

/-- The place of a find in its line. -/
def Found.span {α : Type} (found : Found α) (start : Nat) : Span :=
  ⟨start, (start + found.width : Nat)⟩

end TypeLens
