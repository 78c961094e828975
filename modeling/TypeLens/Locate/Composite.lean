/-
# TypeLens.Locate.Composite -- runs of built-in specifiers

A composite expression is one or more vocabulary words, each with the blanks behind it, then
possibly stars; it starts and ends at a word boundary. There are many ways to read one at a place,
and the first in order of preference that ends at a boundary is taken: more words before fewer,
then more blanks behind the last one, then more stars.

The words need no blanks between them, and a star at the end counts only when a word follows it
directly, because only then is there a boundary behind it.
-/
import TypeLens.Locate.Occurrences
import TypeLens.Locate.Vocabulary
import TypeLens.Text.Blank

namespace TypeLens

/-- The numbers from `n` down to zero. -/
def downFrom : Nat → List Nat
  | 0 => [0]
  | n + 1 => (n + 1) :: downFrom n

theorem mem_downFrom {k n : Nat} : k ∈ downFrom n ↔ k ≤ n := by
  induction n with
  | zero => simp [downFrom]
  | succ n ih =>
    rw [downFrom, List.mem_cons, ih]
    omega

/-- The length of the run of characters at the front that satisfy a test. -/
def runLength (p : Char → Bool) (text : Text) : Nat := (text.takeWhile p).length

/-- The widths of the vocabulary words at the front, in the order of the vocabulary. -/
def keywordWidths (text : Text) : List Nat :=
  vocabulary.filterMap fun k => (k.isPrefixOf? text).map fun _ => k.length

/-- The widths of one vocabulary word with blanks behind it, more blanks first. -/
def specifierWidths (text : Text) : List Nat :=
  (keywordWidths text).flatMap fun k =>
    (downFrom (runLength isBlank (text.drop k))).map (k + ·)

/-- The widths of one or more specifiers, longer runs first. -/
def runWidths (text : Text) : List Nat :=
  (specifierWidths text).flatMap fun n =>
    if _h : 0 < n ∧ n ≤ text.length then (runWidths (text.drop n)).map (n + ·) ++ [n] else []
termination_by text.length
decreasing_by
  simp only [List.length_drop]
  omega

/-- The widths of composite expressions at the front, in order of preference. -/
def compositeWidths (text : Text) : List Nat :=
  (runWidths text).flatMap fun n =>
    (downFrom (runLength (· == '*') (text.drop n))).map (n + ·)

/-- Whether a word boundary lies behind the first `n` characters of a text, `n` being positive. -/
def boundaryBehind (text : Text) (n : Nat) : Bool := isBoundary text[n - 1]? text[n]?

/-- Reads a composite expression. -/
def readComposite : Reader Unit := fun before text =>
  if isBoundary before text.head? then
    ((compositeWidths text).find? (boundaryBehind text)).map fun n => ⟨(), n⟩
  else none

end TypeLens
