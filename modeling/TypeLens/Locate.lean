/-
# TypeLens.Locate -- the type expression at a cursor

Four ways to see a type at a cursor, in order of priority: an aggregate named with its keyword, a
word that is a known user type, a run of built-in specifiers, and a lone keyword. Only the line
itself and the set of known names are looked at.
-/
import TypeLens.Locate.Composite
import TypeLens.Locate.Mention
import TypeLens.Locate.Word

namespace TypeLens

/-- A way to see a type expression at a cursor. -/
inductive Strategy where
  | aggregateMention
  | knownName
  | composite
  | loneKeyword
deriving DecidableEq, Repr

namespace Strategy

/-- The strategies in order of priority. -/
def all : List Strategy := [aggregateMention, knownName, composite, loneKeyword]

/-- The first mention that the cursor touches. On its name only the name is seen. -/
def seeMention (line : Text) (cursor : Int) : Option Sighting :=
  ((occurrences readMention line).find? fun (start, m) => (m.span start).touches cursor).map
    fun (start, m) =>
      let nameStart := start + m.value.nameOffset
      let nameSpan : Span := ⟨nameStart, (nameStart + m.value.name.length : Nat)⟩
      if nameSpan.touches cursor then ⟨m.value.name, nameSpan⟩
      else ⟨collapse (m.slice start line), m.span start⟩

/-- The word at the cursor when it is a known name. -/
def seeKnown (known : List Text) (line : Text) (cursor : Int) : Option Sighting :=
  (touchingWord line cursor).filter fun w => known.contains w.text

/-- The first composite expression that the cursor touches. -/
def seeComposite (line : Text) (cursor : Int) : Option Sighting :=
  ((occurrences readComposite line).find? fun (start, f) => (f.span start).touches cursor).map
    fun (start, f) => ⟨collapse (f.slice start line), f.span start⟩

/-- The word at the cursor when it is a vocabulary word. -/
def seeKeyword (line : Text) (cursor : Int) : Option Sighting :=
  (touchingWord line cursor).filter fun w => vocabulary.contains w.text

/-- What a strategy sees at a cursor. -/
def see (known : List Text) (line : Text) (cursor : Int) : Strategy → Option Sighting
  | aggregateMention => seeMention line cursor
  | knownName => seeKnown known line cursor
  | composite => seeComposite line cursor
  | loneKeyword => seeKeyword line cursor

end Strategy

/-- The type expression at a cursor: what the first strategy that sees one sees. -/
def locate (known : List Text) (line : Text) (cursor : Int) : Option Sighting :=
  Strategy.all.findSome? (Strategy.see known line cursor)

end TypeLens
