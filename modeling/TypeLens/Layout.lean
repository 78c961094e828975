/-
# TypeLens.Layout -- the memory layout of a type expression

An expression with a star is a pointer, whatever else it says; its base is looked up only for the
description. Any other expression is a user-defined aggregate of known size, or else a built-in
type.
-/
import TypeLens.Builtin
import TypeLens.Locate

namespace TypeLens

/-! ## Layouts -/

/-- What a pointer is known to point to. -/
structure Pointee where
  name : Text
  description : Text
deriving DecidableEq, Repr

/-- The kinds of types, with what is known of each. -/
inductive Shape where
  | scalar (extent : Extent) (description : Text)
  | aggregate (size : Int)
  | pointer (size : Nat) (pointee : Option Pointee)
deriving DecidableEq, Repr

namespace Shape

/-- The bytes that a value takes. -/
def size : Shape → Int
  | scalar extent _ => extent.size
  | aggregate size => size
  | pointer size _ => size

/-- The alignment in bytes, which is not known of aggregates. -/
def alignment : Shape → Option Nat
  | scalar extent _ => some extent.alignment
  | aggregate _ => none
  | pointer size _ => some size

/-- What the type is, for readers. -/
def description : Shape → Text
  | scalar _ description => description
  | aggregate _ => "User-defined type".toList
  | pointer _ (some pointee) => "Pointer to ".toList ++ pointee.name
  | pointer _ none => "Pointer type".toList

/-- Whether the type is a pointer. -/
def isPointer : Shape → Bool
  | pointer _ _ => true
  | _ => false

/-- Whether the type is a user-defined aggregate. -/
def isAggregate : Shape → Bool
  | aggregate _ => true
  | _ => false

/-- What the pointed-to type is, for pointers to a known type. -/
def pointeeDescription : Shape → Option Text
  | pointer _ pointee => pointee.map Pointee.description
  | _ => none

end Shape

/-- The layout of a type expression, with its place when it was found in a line. -/
structure Layout where
  text : Text
  span : Option Span
  shape : Shape
deriving DecidableEq, Repr

/-! ## Sizes of aggregates -/

/-- Sizes of user-defined aggregates by name. -/
abbrev SizeMap := List (Text × Int)

namespace SizeMap

/-- The size of a name. -/
def get? (sizes : SizeMap) (name : Text) : Option Int :=
  (sizes.find? fun entry => entry.1 = name).map Prod.snd

/-- The names that have a size. -/
def names (sizes : SizeMap) : List Text := sizes.map Prod.fst

theorem get?_eq_none_iff {sizes : SizeMap} {name : Text} :
    sizes.get? name = none ↔ name ∉ sizes.names := by
  rw [get?, Option.map_eq_none_iff, List.find?_eq_none]
  constructor
  · intro hall hmem
    obtain ⟨entry, hentry, hname⟩ := List.mem_map.mp hmem
    exact hall entry hentry (by simpa using hname)
  · intro hnot entry hentry hname
    exact hnot (List.mem_map.mpr ⟨entry, hentry, by simpa using hname⟩)

/-- The size of an aggregate by its name, or, failing that, by what follows its keyword and a
space. -/
def find? (sizes : SizeMap) (name : Text) : Option Int :=
  (sizes.get? name).or <|
    match aggregateKeywords.findSome? fun k => (k ++ [' ']).isPrefixOf? name with
    | some rest => sizes.get? (trim rest)
    | none => none

end SizeMap

/-! ## Expressions -/

namespace Layout

/-- The shape of an expression without stars: an aggregate before a built-in type. -/
def plainShape? (width : Width) (sizes : SizeMap) (text : Text) : Option Shape :=
  match sizes.find? text with
  | some size => some (.aggregate size)
  | none => (Builtin.find? text).map fun b => .scalar (b.extent width) b.description

/-- What remains of an expression without its stars, single-spaced. -/
def pointerBase (text : Text) : Text :=
  joinWords (words (text.map fun c => if c = '*' then ' ' else c))

/-- The shape of an expression with stars. -/
def pointerShape (width : Width) (sizes : SizeMap) (text : Text) : Shape :=
  let base := pointerBase text
  let known := if base.isEmpty then none else plainShape? width sizes base
  .pointer width.pointerSize (known.map fun shape => ⟨base, shape.description⟩)

/-- The layout of a type expression, if it is known. -/
def ofText? (width : Width) (sizes : SizeMap) (text : Text) : Option Layout :=
  let text := trim text
  if text.isEmpty then none
  else if '*' ∈ text then some ⟨text, none, pointerShape width sizes text⟩
  else (plainShape? width sizes text).map fun shape => ⟨text, none, shape⟩

/-- The layout of the type expression at a cursor, if there is one and it is known. -/
def atCursor? (width : Width) (known : List Text) (sizes : SizeMap) (line : Text) (cursor : Int) :
    Option Layout := do
  let sighting ← locate known line cursor
  let layout ← ofText? width sizes sighting.text
  return { layout with span := some sighting.span }

/-- The layout at a cursor is that of the text which is seen there, put in its place. -/
theorem atCursor?_eq (width : Width) (known : List Text) (sizes : SizeMap) (line : Text)
    (cursor : Int) :
    atCursor? width known sizes line cursor =
      (locate known line cursor).bind fun sighting =>
        (ofText? width sizes sighting.text).map fun layout =>
          { layout with span := some sighting.span } := by
  simp only [atCursor?, Option.map_eq_bind]
  rfl

end Layout

end TypeLens
