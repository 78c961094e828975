/-
# TypeLens.Proofs.PrintableSizes -- reports whose size can be printed

A report on a layout shows its size, and there is no report on a size that cannot be printed
(`reportOn_eq_error_iff`). Sizes come from three sources: built-in types, pointers, and the sizes that
are given for names, which may be spread over further names but are not changed by that
(`Declaration.exists_get?_of_spreadSizes`). The first two are small. So nothing is left unreported
where every given size can be printed (`SizeMap.Printable`).
-/
import TypeLens.Proofs.Declaration.SharedSizes
import TypeLens.Proofs.Session.Answers
import TypeLens.Proofs.Text.Printing

namespace TypeLens

/-! ## Given sizes -/

namespace SizeMap

/-- Every size that a name has can be printed. -/
def Printable (sizes : SizeMap) : Prop :=
  ∀ name size, sizes.get? name = some size → (integerText? size).isSome = true

variable {sizes : SizeMap}

/-- The size of an aggregate is that of some name. -/
theorem exists_get?_of_find? {name : Text} {size : Int} (h : sizes.find? name = some size) :
    ∃ n, sizes.get? n = some size := by
  rcases Option.or_eq_some_iff.mp h with hown | ⟨-, hbehind⟩
  · exact ⟨name, hown⟩
  · split at hbehind
    · exact ⟨_, hbehind⟩
    · cases hbehind

end SizeMap

/-- Spreading sizes makes up none. -/
theorem Declaration.exists_get?_of_spreadSizes {ds : List Declaration} {sizes : SizeMap}
    {name : Text} {size : Int} (h : (spreadSizes ds sizes).get? name = some size) :
    ∃ n, sizes.get? n = some size := by
  rw [get?_spreadSizes] at h
  rcases Option.or_eq_some_iff.mp h with hown | ⟨-, hlent⟩
  · exact ⟨name, hown⟩
  · obtain ⟨d, -, hd⟩ := List.exists_of_findSome?_eq_some hlent
    obtain ⟨-, before, n, behind, -, hn, -⟩ := lent?_eq_some_iff.mp hd
    exact ⟨n, hn⟩

theorem SizeMap.Printable.spreadSizes {sizes : SizeMap} (h : sizes.Printable)
    (ds : List Declaration) : (Declaration.spreadSizes ds sizes).Printable := by
  intro name size hsize
  obtain ⟨n, hn⟩ := Declaration.exists_get?_of_spreadSizes hsize
  exact h n size hn

/-! ## Layouts -/

theorem Builtin.size_le {b : Builtin} (hb : b ∈ table) (width : Width) :
    (b.extent width).size ≤ 16 := by
  have hall : ∀ b ∈ table, b.on32.size ≤ 16 ∧ b.on64.size ≤ 16 := by decide
  cases width with
  | bits32 => exact (hall b hb).1
  | bits64 => exact (hall b hb).2

namespace Layout

variable {width : Width} {sizes : SizeMap} {text : Text}

theorem printable_plainShape? (hsizes : sizes.Printable) {shape : Shape}
    (h : plainShape? width sizes text = some shape) : (integerText? shape.size).isSome = true := by
  unfold plainShape? at h
  split at h
  · rename_i size hsize
    obtain rfl := Option.some.inj h
    obtain ⟨n, hn⟩ := SizeMap.exists_get?_of_find? hsize
    exact hsizes n size hn
  · obtain ⟨b, hb, rfl⟩ := Option.map_eq_some_iff.mp h
    have hle := Builtin.size_le (List.mem_of_find?_eq_some hb) width
    exact isSome_integerText?_of_lt (Nat.lt_of_le_of_lt hle (by decide))

/-- If the given sizes can be printed, then so can the size of every layout. -/
theorem printable_ofText? (hsizes : sizes.Printable) {layout : Layout}
    (h : ofText? width sizes text = some layout) :
    (integerText? layout.shape.size).isSome = true := by
  unfold ofText? at h
  dsimp only at h
  split at h
  · cases h
  · split at h
    · obtain rfl := Option.some.inj h
      have hle : width.pointerSize ≤ 8 := by cases width <;> decide
      exact isSome_integerText?_of_lt (Nat.lt_of_le_of_lt hle (by decide))
    · obtain ⟨shape, hshape, rfl⟩ := Option.map_eq_some_iff.mp h
      exact printable_plainShape? hsizes hshape

theorem printable_atCursor? (hsizes : sizes.Printable) {known : List Text} {line : Text}
    {cursor : Int} {layout : Layout} (h : atCursor? width known sizes line cursor = some layout) :
    (integerText? layout.shape.size).isSome = true := by
  rw [atCursor?_eq] at h
  obtain ⟨sighting, -, hmap⟩ := Option.bind_eq_some_iff.mp h
  obtain ⟨found, hfound, rfl⟩ := Option.map_eq_some_iff.mp hmap
  have hprintable := printable_ofText? hsizes hfound
  exact hprintable

end Layout

/-! ## Reports -/

theorem Hover.render?_eq_none_iff (facts : Facts) (label : Text) (showArchitecture : Bool) :
    render? facts label showArchitecture = none ↔ integerText? facts.size = none := by
  rw [render?, sizeParagraph?, Option.map_eq_none_iff, Option.map_eq_none_iff]

namespace Session

variable {s : Session} {layout? : Option Layout}

/-- There is no report on a layout whose size cannot be printed. -/
theorem reportOn_eq_error_iff {fault : Fault} :
    s.reportOn layout? = .error fault ↔
      fault = .tooManyDigits ∧ ∃ l, layout? = some l ∧ integerText? l.shape.size = none := by
  cases layout? with
  | none => simp [reportOn, Report.on]
  | some l =>
    have hnone := Hover.render?_eq_none_iff (.ofShape l.shape) s.architecture.label
      s.settings.showArchitecture
    cases hrender : Hover.render? (.ofShape l.shape) s.architecture.label
        s.settings.showArchitecture with
    | none =>
      have hsize : integerText? l.shape.size = none := hnone.mp hrender
      simp [reportOn, Report.on, hrender, hsize, eq_comm]
    | some hover =>
      have hsize : integerText? l.shape.size ≠ none := fun h => by simp [hnone.mpr h] at hrender
      simp [reportOn, Report.on, hrender, hsize]

theorem exists_reportOn (h : ∀ l, layout? = some l → (integerText? l.shape.size).isSome = true) :
    ∃ report, s.reportOn layout? = .ok report := by
  cases hreport : s.reportOn layout? with
  | ok report => exact ⟨report, rfl⟩
  | error fault =>
    obtain ⟨-, l, hl, hnone⟩ := reportOn_eq_error_iff.mp hreport
    have hsome := h l hl
    rw [hnone] at hsome
    cases hsome

theorem exists_layoutInLine {sizes : SizeMap} (hsizes : sizes.Printable) (s : Session)
    (known : List Text) (line : Text) (cursor : Int) :
    ∃ report, (s.layoutInLine known sizes line cursor).2 = .ok report := by
  rw [layoutInLine_eq_reportOn]
  exact exists_reportOn fun _ => Layout.printable_atCursor? hsizes

end Session

end TypeLens
