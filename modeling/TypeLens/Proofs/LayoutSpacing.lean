/-
# TypeLens.Proofs.LayoutSpacing -- what the spacing of an expression can change about its layout

An expression is compared with its single-spaced form (`collapse`). A pointer goes by the words that
are left without its stars and a built-in type by its words, so neither shows how it was spaced.
Aggregates are looked up by a text that is trimmed only, and there the two can part: they agree
exactly when the sizes say the same of the trimmed text and of the single-spaced one
(`spacing_immaterial_iff`).

If no name in the sizes holds a blank, one expression is left that is overlooked where its
single-spaced form is found: an aggregate keyword before a name that has a size, with blanks between
them of which the first is not a space (`SizeMap.Overlooks`).
-/
import TypeLens.Proofs.LayoutOfName

namespace TypeLens

/-! ## Layouts that say the same -/

/-- Two shapes have the same size, alignment, descriptions and kind. -/
structure Shape.Agrees (s s' : Shape) : Prop where
  size : s.size = s'.size
  alignment : s.alignment = s'.alignment
  description : s.description = s'.description
  isPointer : s.isPointer = s'.isPointer
  pointeeDescription : s.pointeeDescription = s'.pointeeDescription
  isAggregate : s.isAggregate = s'.isAggregate

/-- All of a shape can be read off what is said about it: the name of a pointee stands in the
description of the pointer. -/
theorem Shape.Agrees.eq {s s' : Shape} (h : s.Agrees s') : s = s' := by
  obtain ⟨hsize, halignment, hdescription, hpointer, hpointee, haggregate⟩ := h
  cases s with
  | scalar extent text =>
    cases s' with
    | scalar extent' text' =>
      obtain ⟨bytes, align⟩ := extent
      obtain ⟨bytes', align'⟩ := extent'
      obtain rfl : bytes = bytes' := Int.ofNat.inj hsize
      obtain rfl : align = align' := Option.some.inj halignment
      exact congrArg (scalar _) hdescription
    | aggregate => exact absurd haggregate Bool.false_ne_true
    | pointer => exact absurd hpointer Bool.false_ne_true
  | aggregate bytes =>
    cases s' with
    | scalar => exact absurd haggregate Bool.false_ne_true.symm
    | aggregate bytes' => exact congrArg aggregate hsize
    | pointer => exact absurd hpointer Bool.false_ne_true
  | pointer bytes pointee =>
    cases s' with
    | scalar => exact absurd hpointer Bool.false_ne_true.symm
    | aggregate => exact absurd hpointer Bool.false_ne_true.symm
    | pointer bytes' pointee' =>
      obtain rfl : bytes = bytes' := Int.ofNat.inj hsize
      cases pointee with
      | none =>
        cases pointee' with
        | none => rfl
        | some => exact absurd hpointee (Option.some_ne_none _).symm
      | some base =>
        cases pointee' with
        | none => exact absurd hpointee (Option.some_ne_none _)
        | some base' =>
          obtain ⟨name, text⟩ := base
          obtain ⟨name', text'⟩ := base'
          obtain rfl : text = text' := Option.some.inj hpointee
          obtain rfl : name = name' := List.append_cancel_left hdescription
          rfl

theorem Shape.agrees_iff {s s' : Shape} : s.Agrees s' ↔ s = s' :=
  ⟨Agrees.eq, fun h => h ▸ ⟨rfl, rfl, rfl, rfl, rfl, rfl⟩⟩

namespace Layout

/-- Two layouts agree on all but the text and its place. -/
def Agrees (l l' : Layout) : Prop := l.shape.Agrees l'.shape

theorem rel_agrees_iff {x y : Option Layout} :
    Option.Rel Agrees x y ↔ x.map Layout.shape = y.map Layout.shape := by
  cases x with
  | none =>
    cases y with
    | none => exact ⟨fun _ => rfl, fun _ => .none⟩
    | some => exact ⟨nofun, nofun⟩
  | some l =>
    cases y with
    | none => exact ⟨nofun, nofun⟩
    | some l' =>
      rw [Option.map_some, Option.map_some, Option.some_inj, ← Shape.agrees_iff]
      exact ⟨fun | .some h => h, fun h => .some h⟩

/-! ## Pointers and built-in types -/

/-- The words that are left of an expression without its stars are those left of its words. -/
theorem pointerBase_of_spelled {ws : List Text} {t : Text} (h : Spelled ws t) :
    pointerBase t =
      joinWords (ws.flatMap fun w => words (w.map fun c => if c = '*' then ' ' else c)) := by
  rw [pointerBase, h.words_map]
  intro c hc
  split
  · exact isBlank_space
  · exact hc

theorem pointerBase_collapse (text : Text) :
    pointerBase (collapse text) = pointerBase (trim text) := by
  by_cases hnil : trim text = []
  · rw [collapse, hnil, squeeze]
  · have hspelled := spelled_words hnil (startsBlank_trim text) (endsBlank_trim text)
    rw [words_trim] at hspelled
    have hwords : words text ≠ [] := by
      rw [← words_trim]
      exact words_ne_nil hnil (startsBlank_trim text)
    rw [collapse_eq_joinWords, pointerBase_of_spelled (spelled_joinWords hwords),
      pointerBase_of_spelled hspelled]

theorem pointerShape_collapse (width : Width) (sizes : SizeMap) (text : Text) :
    pointerShape width sizes (collapse text) = pointerShape width sizes (trim text) := by
  simp only [pointerShape, pointerBase_collapse]

end Layout

theorem Builtin.find?_collapse (text : Text) :
    Builtin.find? (collapse text) = Builtin.find? (trim text) := by
  have htrim : collapse (trim text) = collapse text := by rw [collapse, trim_trim, collapse]
  simp only [Builtin.find?, normalName, collapse_collapse, htrim]

namespace Layout

/-- Of expressions that name the same built-in type, if any, the sizes decide. -/
theorem plainShape?_eq_iff (width : Width) (sizes : SizeMap) {x y : Text}
    (h : Builtin.find? x = Builtin.find? y) :
    plainShape? width sizes x = plainShape? width sizes y ↔ sizes.find? x = sizes.find? y := by
  have hscalar : ∀ (b : Option Builtin) (size : Int),
      (b.map fun b => Shape.scalar (b.extent width) b.description) ≠ some (.aggregate size) := by
    intro b size
    cases b <;> simp
  simp only [plainShape?, h]
  cases sizes.find? x with
  | none =>
    cases sizes.find? y with
    | none => exact iff_of_true rfl rfl
    | some size => exact iff_of_false (hscalar _ size) (by simp)
  | some size =>
    cases sizes.find? y with
    | none => exact iff_of_false (hscalar _ size).symm (by simp)
    | some size' => simp

theorem map_shape_ofText? (width : Width) (sizes : SizeMap) (text : Text) :
    (ofText? width sizes text).map Layout.shape =
      if trim text = [] then none
      else if '*' ∈ text then some (pointerShape width sizes (trim text))
      else plainShape? width sizes (trim text) := by
  simp only [ofText?, List.isEmpty_iff, mem_trim isBlank_star]
  split
  · rfl
  · split
    · rfl
    · rw [Option.map_map]
      exact Option.map_id'

end Layout

/-! ## Sizes of spaced names -/

namespace SizeMap

variable {sizes : SizeMap}

/-- A keyword, blanks and a name that has a size. The look-up goes by the keyword and a space, and
the blanks do not begin with one. -/
structure Overlooks (sizes : SizeMap) (keyword gap name : Text) : Prop where
  keyword_mem : keyword ∈ aggregateKeywords
  gap_ne_nil : gap ≠ []
  gap_blank : ∀ c ∈ gap, isBlank c = true
  gap_noSpace : gap.head? ≠ some ' '
  name_mem : name ∈ sizes.names

variable (hplain : ∀ name ∈ sizes.names, ∀ c ∈ name, isBlank c = false)

include hplain

theorem get?_eq_none_of_blank {name : Text} {c : Char} (hmem : c ∈ name)
    (hc : isBlank c = true) : sizes.get? name = none := by
  rw [get?_eq_none_iff]
  intro hname
  exact Bool.false_ne_true ((hplain name hname c hmem).symm.trans hc)

/-- Single spacing makes no name of what is none. -/
theorem get?_squeeze (x : Text) : sizes.get? (squeeze x) = sizes.get? x := by
  by_cases heq : squeeze x = x
  · rw [heq]
  · have hx : x ∉ sizes.names := fun hmem => heq (squeeze_eq_self (hplain x hmem))
    have hsqueeze : squeeze x ∉ sizes.names :=
      fun hmem => heq (squeeze_eq_self_of_squeeze (hplain _ hmem))
    rw [get?_eq_none_iff.mpr hx, get?_eq_none_iff.mpr hsqueeze]

/-- Of a word, blanks and more, the sizes know what is behind a keyword and a space. -/
theorem find?_append_gap {w gap t : Text} {g : Char} (hw : ∀ c ∈ w, isBlank c = false)
    (hg : isBlank g = true) (hgap : ∀ c ∈ gap, isBlank c = true) (ht : trim t = t) :
    sizes.find? (w ++ g :: (gap ++ t)) =
      if w ∈ aggregateKeywords ∧ g = ' ' then sizes.get? t else none := by
  have hwhole : sizes.get? (w ++ g :: (gap ++ t)) = none :=
    get?_eq_none_of_blank hplain (c := g) (by simp) hg
  rw [find?_append_blank sizes hw hg, hwhole, trim_blanks_append hgap, ht, Option.none_or]

/-- Single-spaced, a keyword is followed by a space, whatever it was followed by before. -/
theorem find?_singleSpaced {w t : Text} {ws : List Text} (hw : ∀ c ∈ w, isBlank c = false)
    (hws : ∀ v ∈ ws, v ≠ [] ∧ ∀ c ∈ v, isBlank c = false) (ht : Spelled ws t) :
    sizes.find? (joinWords (w :: ws)) =
      if w ∈ aggregateKeywords then sizes.get? t else none := by
  have hne : ws ≠ [] := by
    rintro rfl
    cases ht
  have htrim : trim t = t := trim_eq_self (ht.startsBlank_eq hws) (ht.endsBlank_eq hws)
  have hsqueeze : trim (squeeze t) = squeeze t := by
    have hcollapse := trim_collapse t
    rwa [collapse, htrim] at hcollapse
  have hjoin : joinWords (w :: ws) = w ++ ' ' :: ([] ++ squeeze t) := by
    rw [joinWords_cons w hne, ← ht.squeeze_eq hws, List.append_assoc, List.singleton_append,
      List.nil_append]
  rw [hjoin, find?_append_gap hplain hw isBlank_space (by simp) hsqueeze, get?_squeeze hplain]
  simp only [and_true]

/-- A text splits in one way only into a keyword, blanks and a name. -/
theorem overlooks_iff {w gap t : Text} {g : Char} (hw : ∀ c ∈ w, isBlank c = false)
    (hgap : ∀ c ∈ g :: gap, isBlank c = true) (ht : trim t = t) :
    (∃ keyword gap' name, w ++ g :: (gap ++ t) = keyword ++ gap' ++ name ∧
        sizes.Overlooks keyword gap' name) ↔
      w ∈ aggregateKeywords ∧ g ≠ ' ' ∧ t ∈ sizes.names := by
  have hlater : ∀ c ∈ gap, isBlank c = true := fun c hc => hgap c (List.mem_cons_of_mem _ hc)
  constructor
  · rintro ⟨keyword, gap', name, htext, hover⟩
    obtain ⟨g', gap', rfl⟩ := List.exists_cons_of_ne_nil hover.gap_ne_nil
    rw [List.append_assoc, List.cons_append] at htext
    obtain ⟨rfl, rfl, hrest⟩ := append_blank_inj hw (isBlank_of_mem_keyword hover.keyword_mem)
      (hgap g (by simp)) (hover.gap_blank g' (by simp)) htext
    have hname : t = name := by
      calc t
        _ = trim (gap ++ t) := by rw [trim_blanks_append hlater, ht]
        _ = trim (gap' ++ name) := by rw [hrest]
        _ = name := by
          rw [trim_blanks_append fun c hc => hover.gap_blank c (List.mem_cons_of_mem _ hc),
            trim_word (hplain name hover.name_mem)]
    exact ⟨hover.keyword_mem, fun hspace => hover.gap_noSpace (congrArg some hspace),
      hname ▸ hover.name_mem⟩
  · rintro ⟨hkeyword, hspace, hname⟩
    exact ⟨w, g :: gap, t, by rw [List.append_assoc, List.cons_append],
      hkeyword, List.cons_ne_nil _ _, hgap, fun h => hspace (Option.some.inj h), hname⟩

/-- **The one spacing that is overlooked.** -/
theorem find?_collapse_iff (text : Text) :
    sizes.find? (trim text) = sizes.find? (collapse text) ↔
      ¬ ∃ keyword gap name, trim text = keyword ++ gap ++ name ∧
        sizes.Overlooks keyword gap name := by
  by_cases hnil : trim text = []
  · -- there is no word, and so no keyword
    refine iff_of_true (by rw [collapse, hnil, squeeze]) ?_
    rintro ⟨keyword, gap, name, htext, hover⟩
    rw [hnil] at htext
    simp [hover.gap_ne_nil] at htext
  have hspelled := spelled_words hnil (startsBlank_trim text) (endsBlank_trim text)
  have hwords : ∀ w ∈ words (trim text), w ≠ [] ∧ ∀ c ∈ w, isBlank c = false :=
    fun _ hw => mem_words hw
  rw [collapse, hspelled.squeeze_eq hwords]
  generalize words (trim text) = ws at hspelled hwords
  generalize trim text = t at hspelled
  cases hspelled with
  | one =>
    -- a single word, which nothing splits
    refine iff_of_true (by rw [joinWords_singleton]) ?_
    rintro ⟨keyword, gap, name, rfl, hover⟩
    obtain ⟨g, gap, rfl⟩ := List.exists_cons_of_ne_nil hover.gap_ne_nil
    have hg := (hwords (keyword ++ g :: gap ++ name) (by simp)).2 g (by simp)
    exact Bool.false_ne_true (hg.symm.trans (hover.gap_blank g (by simp)))
  | @more ws gap t w hne hgap hrest =>
    obtain ⟨g, gap, rfl⟩ := List.exists_cons_of_ne_nil hne
    have hw := (hwords w (by simp)).2
    have hlater : ∀ v ∈ ws, v ≠ [] ∧ ∀ c ∈ v, isBlank c = false :=
      fun v hv => hwords v (List.mem_cons_of_mem _ hv)
    have ht : trim t = t := trim_eq_self (hrest.startsBlank_eq hlater) (hrest.endsBlank_eq hlater)
    rw [List.append_assoc, List.cons_append, overlooks_iff hplain hw hgap ht,
      find?_singleSpaced hplain hw hlater hrest, find?_append_gap hplain hw (hgap g (by simp))
        (fun c hc => hgap c (List.mem_cons_of_mem _ hc)) ht]
    by_cases hkeyword : w ∈ aggregateKeywords
    · by_cases hspace : g = ' '
      · simp [hkeyword, hspace]
      · simp only [hkeyword, hspace, and_false, if_false, if_true, true_and, ne_eq,
          not_false_eq_true]
        rw [eq_comm, get?_eq_none_iff]
    · simp [hkeyword]

end SizeMap

/-! ## Expressions and their single-spaced forms -/

namespace Layout

/-- An expression and its single-spaced form have stars or are empty together, so that only the sizes
can tell them apart. -/
theorem agrees_collapse_iff (width : Width) (sizes : SizeMap) (text : Text) :
    Option.Rel Agrees (ofText? width sizes text) (ofText? width sizes (collapse text)) ↔
      '*' ∈ text ∨ sizes.find? (trim text) = sizes.find? (collapse text) := by
  have hempty : collapse text = [] ↔ trim text = [] :=
    ⟨fun h => by_contra fun hne => squeeze_ne_nil hne h, fun h => by rw [collapse, h, squeeze]⟩
  have hstar : '*' ∈ collapse text ↔ '*' ∈ text := by
    rw [collapse, mem_squeeze isBlank_star, mem_trim isBlank_star]
  rw [rel_agrees_iff, map_shape_ofText?, map_shape_ofText?, trim_collapse, pointerShape_collapse]
  simp only [hempty, hstar]
  by_cases hnil : trim text = []
  · simp [hnil, hempty.mpr hnil]
  · by_cases hmem : '*' ∈ text
    · simp [hnil, hmem]
    · simp only [hnil, hmem, if_false, false_or]
      exact plainShape?_eq_iff width sizes (Builtin.find?_collapse text).symm

/-- **What spacing can change.** An expression and its single-spaced form are both unknown, or agree
on size, alignment, descriptions and kind, exactly when there is a star in them or the sizes say the
same of both. If no name in the sizes holds a blank, the latter fails only for a keyword and a name
with blanks between them that do not begin with a space. -/
theorem spacing_immaterial_iff (width : Width) (sizes : SizeMap) (text : Text) :
    (Option.Rel Agrees (ofText? width sizes text) (ofText? width sizes (collapse text)) ↔
      '*' ∈ text ∨ sizes.find? (trim text) = sizes.find? (collapse text)) ∧
    ((∀ name ∈ sizes.names, ∀ c ∈ name, isBlank c = false) →
      (Option.Rel Agrees (ofText? width sizes text) (ofText? width sizes (collapse text)) ↔
        '*' ∈ text ∨ ¬ ∃ keyword gap name, trim text = keyword ++ gap ++ name ∧
          sizes.Overlooks keyword gap name)) := by
  refine ⟨agrees_collapse_iff width sizes text, ?_⟩
  intro hplain
  rw [agrees_collapse_iff, SizeMap.find?_collapse_iff hplain]

/-- Blanks around a mention and behind the space do no harm; a tab behind the keyword does. -/
theorem spacing_of_mention :
    let sizes : SizeMap := [("Node".toList, 16)]
    Option.Rel Agrees (ofText? .bits64 sizes " struct \t Node\n".toList)
      (ofText? .bits64 sizes (collapse " struct \t Node\n".toList)) ∧
    ¬ Option.Rel Agrees (ofText? .bits64 sizes "union\t Node".toList)
      (ofText? .bits64 sizes (collapse "union\t Node".toList)) := by
  intro sizes
  refine ⟨(spacing_immaterial_iff .bits64 sizes _).1.mpr (.inr (by decide +kernel)), ?_⟩
  have hplain : ∀ name ∈ sizes.names, ∀ c ∈ name, isBlank c = false := by
    have hall : ∀ name ∈ sizes.names, name.all (fun c => !isBlank c) = true := by decide
    intro name hname c hc
    simpa using List.all_eq_true.mp (hall name hname) c hc
  rw [(spacing_immaterial_iff .bits64 sizes _).2 hplain]
  have hover : sizes.Overlooks "union".toList "\t ".toList "Node".toList :=
    ⟨by decide, by decide, List.all_eq_true.mp (by decide), by decide, by decide⟩
  rintro (hstar | hnone)
  · exact absurd hstar (by decide)
  · exact hnone ⟨_, _, _, by decide, hover⟩

/-- **Not every spacing is immaterial.** With a tab behind its keyword an aggregate is unknown, and
with a space it is known. -/
theorem tab_behind_keyword :
    let sizes : SizeMap := [("Node".toList, 16)]
    let text := "struct\tNode".toList
    ofText? .bits64 sizes text = none ∧
    ofText? .bits64 sizes (collapse text) = some ⟨"struct Node".toList, none, .aggregate 16⟩ ∧
    ¬ Option.Rel Agrees (ofText? .bits64 sizes text) (ofText? .bits64 sizes (collapse text)) := by
  intro sizes text
  have hnone : ofText? .bits64 sizes text = none := by decide +kernel
  have hsome : ofText? .bits64 sizes (collapse text) =
      some ⟨"struct Node".toList, none, .aggregate 16⟩ := by decide +kernel
  refine ⟨hnone, hsome, ?_⟩
  rw [hnone, hsome]
  exact nofun

end Layout

end TypeLens
