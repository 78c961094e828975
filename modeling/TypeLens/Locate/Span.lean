/-
# TypeLens.Locate.Span -- places in a line

A span counts as touched by a cursor at either of its ends: a cursor just past a word still points
at it.
-/
import TypeLens.Text.Basic

namespace TypeLens

/-- Offsets `start` to `stop` of a line, `stop` excluded. -/
structure Span where
  start : Int
  stop : Int
deriving DecidableEq, Repr

/-- Whether a cursor touches the span; both ends count. -/
def Span.touches (s : Span) (cursor : Int) : Bool := s.start ≤ cursor && cursor ≤ s.stop

theorem Span.touches_iff {s : Span} {cursor : Int} :
    s.touches cursor = true ↔ s.start ≤ cursor ∧ cursor ≤ s.stop := by
  simp [Span.touches]

/-- A type expression that was found in a line. -/
structure Sighting where
  text : Text
  span : Span
deriving DecidableEq, Repr

end TypeLens
