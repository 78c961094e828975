/-
# TypeLens.Hover -- what an editor shows for a type

Markdown with one fact to a paragraph: the size, then the description when there is one, then the
architecture when it is wanted. A size with too many digits cannot be shown, and then nothing is.
-/
import TypeLens.Layout
import TypeLens.Text.Decimal

namespace TypeLens

namespace Hover

/-- The facts of a layout that a reader is shown. -/
structure Facts where
  size : Int
  description : Option Text
  isAggregate : Bool

/-- The facts of a layout. -/
def Facts.ofShape (shape : Shape) : Facts :=
  ⟨shape.size, some shape.description, shape.isAggregate⟩

/-- The paragraph that gives the size, if that can be printed. -/
def sizeParagraph? (facts : Facts) : Option Text :=
  (integerText? facts.size).map fun size =>
    (if facts.isAggregate then "Size: `" else "Memory Size: `").toList ++ size
      ++ " bytes`".toList

/-- The paragraph that gives the description, unless that is empty. -/
def descriptionParagraph (facts : Facts) : Option Text :=
  (facts.description.filter (!·.isEmpty)).map fun d => '_' :: d ++ ['_']

/-- The paragraph that gives the architecture. -/
def architectureParagraph (label : Text) : Text := "Architecture: ".toList ++ label

/-- The markdown for a type, if its size can be printed. -/
def render? (facts : Facts) (label : Text) (showArchitecture : Bool) : Option Text :=
  (sizeParagraph? facts).map fun size =>
    ['\n', '\n'].intercalate <|
      [size] ++ (descriptionParagraph facts).toList
        ++ (if showArchitecture then [architectureParagraph label] else [])

end Hover

end TypeLens
