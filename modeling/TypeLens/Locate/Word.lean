/-
# TypeLens.Locate.Word -- the word at a cursor

A word is a maximal run of word characters. At most one word touches a cursor, so the first one
that does is the one.
-/
import TypeLens.Locate.Occurrences

namespace TypeLens

/-- Reads the word characters at a place. -/
def readWord : Reader Text := fun _ text =>
  match text.takeWhile isWordChar with
  | [] => none
  | word => some ⟨word, word.length⟩

/-- The words of a line with their places, from left to right. -/
def lineWords (line : Text) : List Sighting :=
  (occurrences readWord line).map fun (start, found) => ⟨found.value, found.span start⟩

/-- The word that touches the cursor. The search ends at the first word that starts behind the
cursor. -/
def touchingWord (line : Text) (cursor : Int) : Option Sighting :=
  ((lineWords line).takeWhile fun w => w.span.start ≤ cursor).find? fun w => w.span.touches cursor

end TypeLens
