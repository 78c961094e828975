/-
# TypeLens.Proofs.WidthIndependence -- what the bit width of a target can change

The same question put to a 32-bit and to a 64-bit target gets an answer from both or from neither.
The two answers are counterparts (`Layout.Counterpart`): they agree on all that is said about the
type, and differ at most in the size and alignment of a type that is not an aggregate, where those
of the wider target are not smaller. Either answer is well formed: an alignment is known exactly of
what is not an aggregate, is positive, and divides the size.

The table of built-in types is looked at once (`Builtin.extents_wellFormed`). Everything else
follows from where a shape comes from: a size that the caller gave, a row of the table, or the size
of a pointer. Sizes that callers give for aggregates are taken as they are, negative ones included.
-/
import TypeLens.Layout

namespace TypeLens

/-! ## Rows of the table -/

namespace Extent

/-- The alignment is positive and divides the size. -/
structure WellFormed (e : Extent) : Prop where
  alignment_pos : 0 < e.alignment
  alignment_dvd : e.alignment ∣ e.size

/-- Neither size nor alignment is smaller in the second extent. -/
structure Grows (narrow wide : Extent) : Prop where
  size_le : narrow.size ≤ wide.size
  alignment_le : narrow.alignment ≤ wide.alignment

end Extent

namespace Builtin

/-- Both extents of every row are well formed, and the one for 64 bits is not the smaller one. -/
theorem extents_wellFormed {b : Builtin} (hb : b ∈ table) :
    b.on32.WellFormed ∧ b.on64.WellFormed ∧ b.on32.Grows b.on64 := by
  have hall : ∀ b ∈ table, (0 < b.on32.alignment ∧ b.on32.alignment ∣ b.on32.size) ∧
      (0 < b.on64.alignment ∧ b.on64.alignment ∣ b.on64.size) ∧
      b.on32.size ≤ b.on64.size ∧ b.on32.alignment ≤ b.on64.alignment := by decide +kernel
  obtain ⟨⟨hpos32, hdvd32⟩, ⟨hpos64, hdvd64⟩, hsize, halign⟩ := hall b hb
  exact ⟨⟨hpos32, hdvd32⟩, ⟨hpos64, hdvd64⟩, ⟨hsize, halign⟩⟩

/-- Whatever name leads to a row, the row is one of the table. -/
theorem mem_table_of_find? {name : Text} {b : Builtin} (h : find? name = some b) : b ∈ table :=
  List.mem_of_find?_eq_some h

end Builtin

/-! ## Shapes -/

namespace Shape

/-- No shape is both a pointer and an aggregate; an alignment is known exactly of what is not an
aggregate, and it is positive and divides the size. -/
structure WellFormed (s : Shape) : Prop where
  exclusive : ¬ (s.isPointer = true ∧ s.isAggregate = true)
  alignment_eq_none_iff : s.alignment = none ↔ s.isAggregate = true
  aligned : ∀ a, s.alignment = some a → 0 < a ∧ (a : Int) ∣ s.size

/-- What two shapes of one type have in common when the second is for the wider target. -/
structure Counterpart (narrow wide : Shape) : Prop where
  description : wide.description = narrow.description
  isPointer : wide.isPointer = narrow.isPointer
  pointeeDescription : wide.pointeeDescription = narrow.pointeeDescription
  isAggregate : wide.isAggregate = narrow.isAggregate
  aggregateSize : narrow.isAggregate = true → wide.size = narrow.size
  size_le : narrow.isAggregate = false → narrow.size ≤ wide.size
  /-- Both alignments are known, and ordered, or neither is. -/
  alignment_le : Option.Rel (· ≤ ·) narrow.alignment wide.alignment
  narrow_wellFormed : narrow.WellFormed
  wide_wellFormed : wide.WellFormed

theorem wellFormed_aggregate (size : Int) : (aggregate size).WellFormed where
  exclusive := by simp [isPointer]
  alignment_eq_none_iff := by simp [alignment, isAggregate]
  aligned := by simp [alignment]

theorem wellFormed_scalar {e : Extent} (he : e.WellFormed) (description : Text) :
    (scalar e description).WellFormed where
  exclusive := by simp [isAggregate]
  alignment_eq_none_iff := by simp [alignment, isAggregate]
  aligned a ha := by
    obtain rfl : e.alignment = a := Option.some.inj ha
    exact ⟨he.alignment_pos, Int.natCast_dvd_natCast.mpr he.alignment_dvd⟩

theorem wellFormed_pointer {size : Nat} (hsize : 0 < size) (pointee : Option Pointee) :
    (pointer size pointee).WellFormed where
  exclusive := by simp [isAggregate]
  alignment_eq_none_iff := by simp [alignment, isAggregate]
  aligned a ha := by
    obtain rfl : size = a := Option.some.inj ha
    exact ⟨hsize, Int.dvd_refl _⟩

/-- The size of an aggregate is the one that was given, for either target. -/
theorem counterpart_aggregate (size : Int) : (aggregate size).Counterpart (aggregate size) where
  description := rfl
  isPointer := rfl
  pointeeDescription := rfl
  isAggregate := rfl
  aggregateSize _ := rfl
  size_le _ := Int.le_refl size
  alignment_le := .none
  narrow_wellFormed := wellFormed_aggregate size
  wide_wellFormed := wellFormed_aggregate size

theorem counterpart_scalar {narrow wide : Extent} (hnarrow : narrow.WellFormed)
    (hwide : wide.WellFormed) (hgrows : narrow.Grows wide) (description : Text) :
    (scalar narrow description).Counterpart (scalar wide description) where
  description := rfl
  isPointer := rfl
  pointeeDescription := rfl
  isAggregate := rfl
  aggregateSize h := by simp [isAggregate] at h
  size_le _ := Int.ofNat_le.mpr hgrows.size_le
  alignment_le := .some hgrows.alignment_le
  narrow_wellFormed := wellFormed_scalar hnarrow description
  wide_wellFormed := wellFormed_scalar hwide description

theorem counterpart_pointer (pointee : Option Pointee) :
    (pointer Width.bits32.pointerSize pointee).Counterpart
      (pointer Width.bits64.pointerSize pointee) where
  description := by cases pointee <;> rfl
  isPointer := rfl
  pointeeDescription := rfl
  isAggregate := rfl
  aggregateSize h := by simp [isAggregate] at h
  size_le _ := Int.ofNat_le.mpr (by decide)
  alignment_le := .some (by decide)
  narrow_wellFormed := wellFormed_pointer (by decide) pointee
  wide_wellFormed := wellFormed_pointer (by decide) pointee

end Shape

/-! ## Layouts -/

/-- Related results stay related when both are put to use. -/
theorem rel_map {α β γ δ : Type} {r : α → β → Prop} {r' : γ → δ → Prop} {f : α → γ} {g : β → δ}
    {x : Option α} {y : Option β} (h : Option.Rel r x y) (hfg : ∀ a b, r a b → r' (f a) (g b)) :
    Option.Rel r' (x.map f) (y.map g) := by
  cases h with
  | none => exact .none
  | some hab => exact .some (hfg _ _ hab)

namespace Layout

/-- The layouts of one expression for a 32-bit and a 64-bit target. -/
structure Counterpart (narrow wide : Layout) : Prop where
  text : wide.text = narrow.text
  span : wide.span = narrow.span
  shape : narrow.shape.Counterpart wide.shape

/-- Where a shape comes from does not depend on the width: a given size goes before a row. -/
theorem plainShape?_counterpart (sizes : SizeMap) (text : Text) :
    Option.Rel Shape.Counterpart (plainShape? .bits32 sizes text)
      (plainShape? .bits64 sizes text) := by
  unfold plainShape?
  cases sizes.find? text with
  | some size => exact .some (Shape.counterpart_aggregate size)
  | none =>
    cases hb : Builtin.find? text with
    | none => exact .none
    | some b =>
      obtain ⟨h32, h64, hgrows⟩ := Builtin.extents_wellFormed (Builtin.mem_table_of_find? hb)
      exact .some (Shape.counterpart_scalar h32 h64 hgrows b.description)

/-- A pointee is known for both widths or for neither, and by the same words. -/
theorem pointerShape_counterpart (sizes : SizeMap) (text : Text) :
    (pointerShape .bits32 sizes text).Counterpart (pointerShape .bits64 sizes text) := by
  unfold pointerShape
  dsimp only
  -- the base is looked up for its description only, and that is the same for both
  have hpointee : ∀ {x y : Option Shape}, Option.Rel Shape.Counterpart x y →
      x.map (fun shape => (⟨pointerBase text, shape.description⟩ : Pointee)) =
        y.map fun shape => ⟨pointerBase text, shape.description⟩ := by
    intro x y h
    cases h with
    | none => rfl
    | some h => simp only [Option.map_some, h.description]
  have hbase : Option.Rel Shape.Counterpart
      (if (pointerBase text).isEmpty then none else plainShape? .bits32 sizes (pointerBase text))
      (if (pointerBase text).isEmpty then none
        else plainShape? .bits64 sizes (pointerBase text)) := by
    split
    · exact .none
    · exact plainShape?_counterpart sizes _
  rw [hpointee hbase]
  exact Shape.counterpart_pointer _

theorem ofText?_counterpart (sizes : SizeMap) (text : Text) :
    Option.Rel Counterpart (ofText? .bits32 sizes text) (ofText? .bits64 sizes text) := by
  unfold ofText?
  dsimp only
  split
  · exact .none
  · split
    · exact .some ⟨rfl, rfl, pointerShape_counterpart sizes _⟩
    · exact rel_map (plainShape?_counterpart sizes (trim text)) fun _ _ h => ⟨rfl, rfl, h⟩

/-- **The width of the target changes sizes only.** At every cursor of every line, and for every
expression, a 32-bit and a 64-bit target answer with counterparts, or neither answers. -/
theorem width_changes_sizes_only (known : List Text) (sizes : SizeMap) (line : Text)
    (cursor : Int) :
    Option.Rel Counterpart (atCursor? .bits32 known sizes line cursor)
        (atCursor? .bits64 known sizes line cursor) ∧
      ∀ text, Option.Rel Counterpart (ofText? .bits32 sizes text)
        (ofText? .bits64 sizes text) := by
  refine ⟨?_, ofText?_counterpart sizes⟩
  rw [atCursor?_eq, atCursor?_eq]
  -- the expression is located before the width is looked at
  cases locate known line cursor with
  | none => exact .none
  | some sighting =>
    exact rel_map (ofText?_counterpart sizes sighting.text) fun _ _ h => ⟨h.text, rfl, h.shape⟩

end Layout

end TypeLens
