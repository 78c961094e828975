/-
# TypeLens.Locate.Mention -- aggregates named with their keyword

A mention is an aggregate keyword at a word boundary, blanks, a name, and possibly blanks and
stars. As for composite expressions, the stars belong to the mention only when a word follows them
directly.
-/
import TypeLens.AggregateKind
import TypeLens.Locate.Occurrences
import TypeLens.Text.Blank

namespace TypeLens

/-- An aggregate named with its keyword: the name, and its offset from the keyword. -/
structure Mention where
  name : Text
  nameOffset : Nat
deriving Repr

/-- The width of blanks and stars at the front, zero unless there is a star and a word character
directly behind the stars. -/
def pointerTail (text : Text) : Nat :=
  let blanks := text.takeWhile isBlank
  let behindBlanks := text.dropWhile isBlank
  let stars := behindBlanks.takeWhile (· == '*')
  if !stars.isEmpty && inWord (behindBlanks.dropWhile (· == '*')).head? then
    blanks.length + stars.length
  else 0

/-- Reads a mention that starts with the given keyword. -/
def readMentionOf (keyword text : Text) : Option (Found Mention) :=
  match keyword.isPrefixOf? text with
  | none => none
  | some behind =>
    let blanks := behind.takeWhile isBlank
    let fromName := behind.dropWhile isBlank
    let name := fromName.takeWhile isWordChar
    if blanks.isEmpty || name.isEmpty then none
    else
      let nameOffset := keyword.length + blanks.length
      some ⟨⟨name, nameOffset⟩,
        nameOffset + name.length + pointerTail (fromName.dropWhile isWordChar)⟩

/-- Reads a mention. -/
def readMention : Reader Mention := fun before text =>
  if inWord before then none else aggregateKeywords.findSome? (readMentionOf · text)

end TypeLens
