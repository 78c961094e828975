/-
# TypeLens.Proofs.PointerLayout -- expressions with stars

An expression with a star is a pointer of the size of the target, whatever else it says, and one
without stars is none. Only the description looks at the rest: the runs of characters that are neither
blanks nor stars, single-spaced, are looked up as an expression of their own, and what is found is
what the pointer is said to point to (`pointer_layout`).

That look-up of the base is the look-up of expressions again. Written that way (`ofTextWithin`), it
refers to itself, and nothing in it gets smaller step by step; it ends because a base has no stars
left, so that no more than two look-ups are ever open (`ofTextWithin_eq`).
-/
import TypeLens.Proofs.LayoutSpacing

namespace TypeLens

namespace Layout

/-! ## The base of an expression -/

/-- No piece between markers holds one. -/
theorem isMarker_of_mem_splitOnP {text piece : Text} (hpiece : piece ∈ text.splitOnP isMarker) :
    ∀ c ∈ piece, isMarker c = false := by
  induction text generalizing piece with
  | nil =>
    obtain rfl := List.mem_singleton.mp hpiece
    simp
  | cons d rest ih =>
    obtain ⟨first, pieces, hpieces⟩ :=
      List.exists_cons_of_ne_nil (List.splitOnP_ne_nil isMarker rest)
    rw [List.splitOnP_cons_eq_if_modifyHead] at hpiece
    split at hpiece
    · rcases List.mem_cons.mp hpiece with rfl | hpiece
      · simp
      · exact ih hpiece
    · rename_i hd
      rw [hpieces, List.modifyHead_cons] at hpiece
      rw [hpieces] at ih
      rcases List.mem_cons.mp hpiece with rfl | hpiece
      · intro c hc
        rcases List.mem_cons.mp hc with rfl | hc
        · simpa using hd
        · exact ih List.mem_cons_self c hc
      · exact ih (List.mem_cons_of_mem _ hpiece)

/-- Where stars count as blanks, the words are the pieces between markers that are not empty. -/
theorem words_unstarred (text : Text) :
    words (text.map fun c => if c = '*' then ' ' else c) =
      (text.splitOnP isMarker).filter (· ≠ []) := by
  induction text with
  | nil => rfl
  | cons c rest ih =>
    rw [List.splitOnP_cons_eq_if_modifyHead, List.map_cons, words, ih, isBlank_unstarred]
    by_cases hc : isMarker c = true
    · rw [if_pos hc, if_pos hc]
      rfl
    · have hself : (if c = '*' then ' ' else c) = c := by
        rw [if_neg]
        rintro rfl
        exact hc rfl
      rw [if_neg hc, if_neg hc, hself]
      cases rest with
      | nil => rfl
      | cons d rest =>
        obtain ⟨piece, pieces, hpieces⟩ :=
          List.exists_cons_of_ne_nil (List.splitOnP_ne_nil isMarker rest)
        -- the next character ends the piece or goes on with it
        rw [List.splitOnP_cons_eq_if_modifyHead, List.map_cons, startsBlank, isBlank_unstarred]
        by_cases hd : isMarker d = true
        · simp [hd]
        · simp [hd, hpieces, extendFirst]

/-- The parts of a base: the runs of characters that are neither blanks nor stars. -/
def baseParts (text : Text) : List Text := (text.splitOnP isMarker).filter (· ≠ [])

theorem pointerBase_eq_joinWords (text : Text) : pointerBase text = joinWords (baseParts text) := by
  rw [pointerBase, words_unstarred, baseParts]

/-- A base is empty or a plain name; in particular it has no stars. -/
theorem plainName_pointerBase {text : Text} (h : pointerBase text ≠ []) :
    PlainName (pointerBase text) := by
  rw [pointerBase_eq_joinWords] at h ⊢
  refine .of_words (fun hnil => h (by rw [hnil]; rfl)) ?_
  intro part hpart
  obtain ⟨hmem, hne⟩ := List.mem_filter.mp hpart
  refine ⟨by simpa using hne, fun c hc => ?_⟩
  have hmarker := isMarker_of_mem_splitOnP hmem c hc
  simpa [isMarker] using hmarker

theorem star_notMem_pointerBase (text : Text) : '*' ∉ pointerBase text := by
  by_cases hnil : pointerBase text = []
  · rw [hnil]
    exact List.not_mem_nil
  · exact (plainName_pointerBase hnil).noStar

theorem pointerBase_markers_append {x : Text} (y : Text) (hx : ∀ c ∈ x, isMarker c = true) :
    pointerBase (x ++ y) = pointerBase y := by
  rw [pointerBase, pointerBase, List.map_append, words_blanks_append]
  intro c hc
  obtain ⟨d, hd, rfl⟩ := List.mem_map.mp hc
  rw [isBlank_unstarred]
  exact hx d hd

theorem pointerBase_trim (text : Text) : pointerBase (trim text) = pointerBase text := by
  have hmarker : ∀ {c : Char}, isBlank c = true → isMarker c = true :=
    fun hc => isMarker_iff.mpr (.inl hc)
  obtain ⟨lead, trail, hlead, htrail, hsplit⟩ := exists_blanks_trim text
  conv_rhs => rw [hsplit]
  rw [pointerBase_append_markers _ fun c hc => hmarker (htrail c hc),
    pointerBase_markers_append _ fun c hc => hmarker (hlead c hc)]

/-! ## The look-up of the base -/

theorem ofText?_nil (width : Width) (sizes : SizeMap) : ofText? width sizes [] = none := rfl

/-- What a pointer points to is what its base is, looked up as an expression. -/
theorem pointerShape_eq (width : Width) (sizes : SizeMap) (text : Text) :
    pointerShape width sizes text =
      .pointer width.pointerSize
        ((ofText? width sizes (pointerBase text)).map fun l =>
          ⟨pointerBase text, l.shape.description⟩) := by
  rw [pointerShape]
  by_cases hnil : pointerBase text = []
  · simp [hnil, ofText?_nil]
  · have hempty : ¬ (pointerBase text).isEmpty = true := by simpa using hnil
    rw [(plainName_pointerBase hnil).ofText?_eq_map, Option.map_map]
    simp only [hempty]
    rfl

/-- The look-up of an expression in which the look-up of a base is one of the same kind. At most
`depth` of them may be open at once; there is no answer if these are not enough. -/
def ofTextWithin (width : Width) (sizes : SizeMap) : (depth : Nat) → Text → Option (Option Layout)
  | 0, _ => none
  | depth + 1, text =>
    let text := trim text
    if text.isEmpty then some none
    else if '*' ∈ text then
      let base := pointerBase text
      let known := if base.isEmpty then some none else ofTextWithin width sizes depth base
      known.map fun known =>
        some ⟨text, none,
          .pointer width.pointerSize (known.map fun l => ⟨base, l.shape.description⟩)⟩
    else some ((plainShape? width sizes text).map fun shape => ⟨text, none, shape⟩)

/-- One look-up is enough for an expression without stars. -/
theorem ofTextWithin_of_noStar (width : Width) (sizes : SizeMap) (depth : Nat) {text : Text}
    (h : '*' ∉ text) : ofTextWithin width sizes (depth + 1) text = some (ofText? width sizes text) := by
  have hstar : '*' ∉ trim text := by rwa [mem_trim isBlank_star]
  rw [ofTextWithin, ofText?]
  simp only [hstar, if_false]
  split <;> rfl

/-- Two look-ups are enough for every expression, since a base has no stars. -/
theorem ofTextWithin_eq (width : Width) (sizes : SizeMap) (depth : Nat) (text : Text) :
    ofTextWithin width sizes (depth + 2) text = some (ofText? width sizes text) := by
  by_cases hstar : '*' ∈ trim text
  · rw [ofTextWithin, ofText?]
    simp only [hstar, if_true, pointerShape_eq,
      ofTextWithin_of_noStar width sizes depth (star_notMem_pointerBase (trim text))]
    split
    · rfl
    · split
      · rename_i hnil
        rw [List.isEmpty_iff] at hnil
        rw [hnil, ofText?_nil]
        rfl
      · rfl
  · rw [mem_trim isBlank_star] at hstar
    exact ofTextWithin_of_noStar width sizes (depth + 1) hstar

/-! ## Pointers -/

/-- The layout of a pointer on a target of the given width, where `known` is the layout of the base, if
it has one. -/
structure IsPointerTo (width : Width) (base : Text) (known : Option Layout) (layout : Layout) :
    Prop where
  span : layout.span = none
  isPointer : layout.shape.isPointer = true
  isAggregate : layout.shape.isAggregate = false
  size : layout.shape.size = if width.is64 then 8 else 4
  alignment : layout.shape.alignment = some (if width.is64 then 8 else 4)
  of_known : ∀ l, known = some l →
    layout.shape.description = "Pointer to ".toList ++ base ∧
      layout.shape.pointeeDescription = some l.shape.description
  of_unknown : known = none →
    layout.shape.description = "Pointer type".toList ∧ layout.shape.pointeeDescription = none

theorem ofText?_of_star (width : Width) (sizes : SizeMap) {text : Text} (h : '*' ∈ text) :
    ofText? width sizes text = some ⟨trim text, none, pointerShape width sizes text⟩ := by
  have hstar : '*' ∈ trim text := by rwa [mem_trim isBlank_star]
  have hempty : ¬ (trim text).isEmpty = true := by
    intro hnil
    rw [List.isEmpty_iff] at hnil
    rw [hnil] at hstar
    exact List.not_mem_nil hstar
  simp only [ofText?, pointerShape, pointerBase_trim]
  rw [if_neg hempty, if_pos hstar]

theorem isPointerTo_pointerShape (width : Width) (sizes : SizeMap) (text shown : Text) :
    IsPointerTo width (pointerBase text) (ofText? width sizes (pointerBase text))
      ⟨shown, none, pointerShape width sizes text⟩ := by
  have hsize : width.pointerSize = if width.is64 then 8 else 4 := by cases width <;> rfl
  rw [pointerShape_eq]
  refine ⟨rfl, rfl, rfl, ?_, ?_, ?_, ?_⟩
  · rw [Shape.size, hsize]
    split <;> rfl
  · rw [Shape.alignment, hsize]
  · intro l hl
    rw [hl]
    exact ⟨rfl, rfl⟩
  · intro hnone
    rw [hnone]
    exact ⟨rfl, rfl⟩

theorem isPointer_of_ofText? {width : Width} {sizes : SizeMap} {text : Text} {layout : Layout}
    (h : '*' ∉ text) (hlayout : ofText? width sizes text = some layout) :
    layout.shape.isPointer = false := by
  have hshape := map_shape_ofText? width sizes text
  rw [hlayout, if_neg h, Option.map_some] at hshape
  split at hshape
  · cases hshape
  · unfold plainShape? at hshape
    split at hshape
    · rw [Option.some.inj hshape]
      rfl
    · obtain ⟨b, -, hb⟩ := Option.map_eq_some_iff.mp hshape.symm
      rw [← hb]
      rfl

/-- Stars and blanks behind an expression with a star change nothing but what is shown of it. -/
theorem ofText?_append_markers {width : Width} {sizes : SizeMap} {text tail : Text} {layout : Layout}
    (hstar : '*' ∈ text) (htail : ∀ c ∈ tail, c = '*' ∨ isBlank c = true)
    (hlayout : ofText? width sizes text = some layout) :
    ofText? width sizes (text ++ tail) = some { layout with text := trim (text ++ tail) } := by
  have hmarker : ∀ c ∈ tail, isMarker c = true := by
    intro c hc
    exact isMarker_iff.mpr (htail c hc).symm
  have hbase := pointerBase_append_markers text hmarker
  rw [ofText?_of_star width sizes hstar] at hlayout
  obtain rfl := Option.some.inj hlayout
  rw [ofText?_of_star width sizes (List.mem_append_left tail hstar), pointerShape_eq, hbase,
    pointerShape_eq]

/-- **Pointers.** An expression with a star always has a layout, that of a pointer of the size of the
target, and one without stars never has such a layout. The pointer is said to point to the base, the
single-spaced runs of characters that are neither blanks nor stars, if that has a layout of its own.
The base has no stars, so that looking it up never leads to a third look-up, and stars and blanks
behind the expression change nothing but what is shown of it. -/
theorem pointer_layout (width : Width) (sizes : SizeMap) (text : Text) :
    ('*' ∈ text → ∃ layout, ofText? width sizes text = some layout ∧ layout.text = trim text ∧
      IsPointerTo width (pointerBase text) (ofText? width sizes (pointerBase text)) layout) ∧
    ('*' ∉ text → ∀ layout, ofText? width sizes text = some layout →
      layout.shape.isPointer = false) ∧
    (pointerBase text = joinWords (baseParts text) ∧ '*' ∉ pointerBase text) ∧
    (∀ depth, ofTextWithin width sizes (depth + 2) text = some (ofText? width sizes text)) ∧
    ('*' ∈ text → ∀ tail, (∀ c ∈ tail, c = '*' ∨ isBlank c = true) →
      ∀ layout, ofText? width sizes text = some layout →
        ofText? width sizes (text ++ tail) = some { layout with text := trim (text ++ tail) }) := by
  refine ⟨?pointer, ?plain, ⟨pointerBase_eq_joinWords text, star_notMem_pointerBase text⟩, ?depth,
    ?tail⟩
  case pointer =>
    intro hstar
    exact ⟨_, ofText?_of_star width sizes hstar, rfl, isPointerTo_pointerShape width sizes text _⟩
  case plain =>
    intro hstar layout hlayout
    exact isPointer_of_ofText? hstar hlayout
  case depth =>
    intro depth
    exact ofTextWithin_eq width sizes depth text
  case tail =>
    intro hstar tail htail layout hlayout
    exact ofText?_append_markers hstar htail hlayout

/-- Stars between the words of a type make it a pointer to that type, and stars alone a pointer to
something unknown; an aggregate without stars is no pointer, and a tail is only shown. -/
theorem pointer_layout_of_spellings :
    let sizes : SizeMap := [("Node".toList, 16)]
    let spelled := " unsigned\t**long * ".toList
    (∃ layout, ofText? .bits32 sizes spelled = some layout ∧
      layout.text = "unsigned\t**long *".toList ∧ layout.shape.size = 4 ∧
      layout.shape.description = "Pointer to unsigned long".toList) ∧
    (∃ layout, ofText? .bits64 sizes "* **".toList = some layout ∧ layout.shape.size = 8 ∧
      layout.shape.description = "Pointer type".toList) ∧
    (∃ layout, ofText? .bits64 sizes "struct Node".toList = some layout ∧
      layout.shape.isPointer = false) ∧
    ofText? .bits64 sizes "Node*".toList =
      some ⟨"Node*".toList, none, .pointer 8 (some ⟨"Node".toList, "User-defined type".toList⟩)⟩ ∧
    ofText? .bits64 sizes "Node* *\n".toList =
      some ⟨"Node* *".toList, none,
        .pointer 8 (some ⟨"Node".toList, "User-defined type".toList⟩)⟩ := by
  intro sizes spelled
  have hnode : ofText? .bits64 sizes "Node*".toList =
      some ⟨"Node*".toList, none,
        .pointer 8 (some ⟨"Node".toList, "User-defined type".toList⟩)⟩ := by decide +kernel
  refine ⟨?_, ?_, ?_, hnode, ?_⟩
  · obtain ⟨layout, hlayout, htext, hpointer⟩ :=
      (pointer_layout .bits32 sizes spelled).1 (by decide)
    have hname : pointerBase spelled = "unsigned long".toList := by decide +kernel
    have hbase : ofText? .bits32 sizes (pointerBase spelled) =
        some ⟨"unsigned long".toList, none,
          .scalar ⟨4, 4⟩ "Unsigned long integer".toList⟩ := by decide +kernel
    refine ⟨layout, hlayout, htext.trans (by decide +kernel), hpointer.size, ?_⟩
    rw [(hpointer.of_known _ hbase).1, hname]
    rfl
  · obtain ⟨layout, hlayout, -, hpointer⟩ :=
      (pointer_layout .bits64 sizes "* **".toList).1 (by decide)
    exact ⟨layout, hlayout, hpointer.size, (hpointer.of_unknown (by decide +kernel)).1⟩
  · have hplain : ofText? .bits64 sizes "struct Node".toList =
        some ⟨"struct Node".toList, none, .aggregate 16⟩ := by decide +kernel
    exact ⟨_, hplain,
      (pointer_layout .bits64 sizes "struct Node".toList).2.1 (by decide) _ hplain⟩
  · have hmarkers : " *\n".toList.all isMarker = true := by decide
    have htail : ∀ c ∈ " *\n".toList, c = '*' ∨ isBlank c = true :=
      fun c hc => (isMarker_iff.mp (List.all_eq_true.mp hmarkers c hc)).symm
    exact (pointer_layout .bits64 sizes "Node*".toList).2.2.2.2 (by decide) _ htail _ hnode

end Layout

end TypeLens
