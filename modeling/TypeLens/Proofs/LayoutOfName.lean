/-
# TypeLens.Proofs.LayoutOfName -- layouts of names, and of stars behind names

A plain name is a text that is its words with single spaces between them, and has no star
(`PlainName`). Nothing about such a text is trimmed or spaced anew before it is looked up: its shape
is what the sizes of aggregates and the table of built-in types say of it, and with blanks and stars
behind it the type is a pointer to that shape (`PlainName.ofText?_append_stars`).

The sizes are asked twice, for the whole name and for what is behind an aggregate keyword and a
space. Which keyword that is can be told from the first word (`SizeMap.find?_append_blank`).
-/
import TypeLens.Layout
import TypeLens.Proofs.Text.Spacing

namespace TypeLens

/-! ## Stars behind a name -/

theorem isBlank_star : isBlank '*' = false := by decide

theorem endsBlank_append_stars (x : Text) {stars : Text} (hstars : ∀ c ∈ stars, c = '*')
    (hne : stars ≠ []) : endsBlank (x ++ stars) = false := by
  rw [endsBlank_append x hne, endsBlank, List.getLast?_eq_some_getLast hne,
    hstars _ (List.getLast_mem hne)]
  exact isBlank_star

namespace Layout

/-- What separates the parts of a base: blanks and stars. -/
def isMarker (c : Char) : Bool := isBlank c || c == '*'

theorem isMarker_iff {c : Char} : isMarker c = true ↔ isBlank c = true ∨ c = '*' := by
  rw [isMarker, Bool.or_eq_true, beq_iff_eq]

theorem isBlank_unstarred (c : Char) : isBlank (if c = '*' then ' ' else c) = isMarker c := by
  by_cases hstar : c = '*'
  · rw [if_pos hstar, isBlank_space, isMarker, hstar, beq_self_eq_true, Bool.or_true]
  · rw [if_neg hstar, isMarker, beq_false_of_ne hstar, Bool.or_false]

/-- Markers behind a text leave the base as it is. -/
theorem pointerBase_append_markers (x : Text) {y : Text} (hy : ∀ c ∈ y, isMarker c = true) :
    pointerBase (x ++ y) = pointerBase x := by
  rw [pointerBase, pointerBase, List.map_append, words_append_blanks]
  intro c hc
  obtain ⟨d, hd, rfl⟩ := List.mem_map.mp hc
  rw [isBlank_unstarred]
  exact hy d hd

/-- The base of a text without stars is its words. -/
theorem pointerBase_of_noStar {x : Text} (hx : '*' ∉ x) : pointerBase x = joinWords (words x) := by
  have hself : (x.map fun c => if c = '*' then ' ' else c) = x := by
    conv_rhs => rw [← List.map_id x]
    apply List.map_congr_left
    intro c hc
    have hne : c ≠ '*' := fun e => hx (e ▸ hc)
    rw [if_neg hne, id]
  rw [pointerBase, hself]

end Layout

/-! ## Plain names -/

/-- A text that is its words with single spaces between them, and without stars. -/
structure PlainName (name : Text) : Prop where
  ne_nil : name ≠ []
  spaced : joinWords (words name) = name
  noStar : '*' ∉ name

namespace PlainName

variable {name : Text}

theorem spelled (h : PlainName name) : Spelled (words name) name := by
  have hne : words name ≠ [] := by
    intro hnil
    have hspaced := h.spaced
    rw [hnil] at hspaced
    exact h.ne_nil hspaced.symm
  have hspelled := spelled_joinWords hne
  rwa [h.spaced] at hspelled

theorem startsBlank_eq (h : PlainName name) : startsBlank name = false :=
  h.spelled.startsBlank_eq fun _ hw => mem_words hw

theorem endsBlank_eq (h : PlainName name) : endsBlank name = false :=
  h.spelled.endsBlank_eq fun _ hw => mem_words hw

theorem trim_eq (h : PlainName name) : trim name = name :=
  trim_eq_self h.startsBlank_eq h.endsBlank_eq

/-- The words may be given, and single spaces put between them. -/
theorem of_words {ws : List Text} (hne : ws ≠ [])
    (hws : ∀ w ∈ ws, w ≠ [] ∧ ∀ c ∈ w, isBlank c = false ∧ c ≠ '*') :
    PlainName (joinWords ws) := by
  have hwords : ∀ w ∈ ws, w ≠ [] ∧ ∀ c ∈ w, isBlank c = false :=
    fun w hw => ⟨(hws w hw).1, fun c hc => ((hws w hw).2 c hc).1⟩
  have hspelled := spelled_joinWords hne
  refine ⟨?_, by rw [words_joinWords hwords], ?_⟩
  · intro hnil
    have hself := words_joinWords hwords
    rw [hnil] at hself
    exact hne hself.symm
  · intro hstar
    rcases hspelled.mem hstar with hblank | ⟨w, hw, hmem⟩
    · rw [isBlank_star] at hblank
      exact Bool.false_ne_true hblank
    · exact ((hws w hw).2 _ hmem).2 rfl

/-- A single word is such a name. -/
theorem of_word (hne : name ≠ []) (hname : ∀ c ∈ name, isBlank c = false ∧ c ≠ '*') :
    PlainName name := by
  rw [← joinWords_singleton name]
  refine of_words (List.cons_ne_nil name []) ?_
  intro w hw
  obtain rfl := List.mem_singleton.mp hw
  exact ⟨hne, hname⟩

/-- A plain name is looked up as it is. -/
theorem ofText?_eq_map (h : PlainName name) (width : Width) (sizes : SizeMap) :
    Layout.ofText? width sizes name =
      (Layout.plainShape? width sizes name).map fun shape => ⟨name, none, shape⟩ := by
  have hempty : ¬ name.isEmpty = true := by simpa using h.ne_nil
  simp only [Layout.ofText?, h.trim_eq]
  rw [if_neg hempty, if_neg h.noStar]

section Shape

variable (h : PlainName name) {width : Width} {sizes : SizeMap} {shape : Shape}
  (hshape : Layout.plainShape? width sizes name = some shape)

include h hshape

theorem ofText?_eq : Layout.ofText? width sizes name = some ⟨name, none, shape⟩ := by
  rw [h.ofText?_eq_map, hshape, Option.map_some]

/-- With stars behind it, a name is that of the type pointed to. -/
theorem ofText?_append_stars {space stars : Text} (hspace : ∀ c ∈ space, isBlank c = true)
    (hstars : ∀ c ∈ stars, c = '*') (hne : stars ≠ []) :
    Layout.ofText? width sizes (name ++ space ++ stars) =
      some ⟨name ++ space ++ stars, none,
        .pointer width.pointerSize (some ⟨name, shape.description⟩)⟩ := by
  have hstart : startsBlank (name ++ space ++ stars) = false := by
    rw [List.append_assoc, startsBlank_append h.ne_nil, h.startsBlank_eq]
  have hend := endsBlank_append_stars (name ++ space) hstars hne
  have hmem : '*' ∈ name ++ space ++ stars := by
    obtain ⟨c, rest, rfl⟩ := List.exists_cons_of_ne_nil hne
    simp [hstars c (by simp)]
  have hbase : Layout.pointerBase (name ++ space ++ stars) = name := by
    rw [List.append_assoc, Layout.pointerBase_append_markers,
      Layout.pointerBase_of_noStar h.noStar, h.spaced]
    intro c hc
    rw [Layout.isMarker_iff]
    rcases List.mem_append.mp hc with hc | hc
    · exact .inl (hspace c hc)
    · exact .inr (hstars c hc)
  simp only [Layout.ofText?, trim_eq_self hstart hend]
  rw [if_neg (by simp [h.ne_nil]), if_pos hmem]
  simp only [Layout.pointerShape, hbase, hshape]
  rw [if_neg (by simpa using h.ne_nil)]
  rfl

end Shape

end PlainName

/-! ## Names behind a keyword -/

/-- A text splits in one way only into a text without blanks and what is from a blank on. -/
theorem append_blank_inj {w w' r r' : Text} {g g' : Char} (hw : ∀ c ∈ w, isBlank c = false)
    (hw' : ∀ c ∈ w', isBlank c = false) (hg : isBlank g = true) (hg' : isBlank g' = true)
    (h : w ++ g :: r = w' ++ g' :: r') : w = w' ∧ g = g' ∧ r = r' := by
  have hfront : ∀ {x y : Text} {b : Char}, (∀ c ∈ x, isBlank c = false) → isBlank b = true →
      (x ++ b :: y).takeWhile (fun c => !isBlank c) = x := by
    intro x y b hx hb
    rw [List.takeWhile_append_of_pos fun c hc => by simp [hx c hc],
      List.takeWhile_cons_of_neg (by simp [hb]), List.append_nil]
  obtain rfl : w = w' := by rw [← hfront hw hg, h, hfront hw' hg']
  obtain ⟨rfl, rfl⟩ := List.cons.inj (List.append_cancel_left h)
  exact ⟨rfl, rfl, rfl⟩

theorem isBlank_of_mem_keyword {k : Text} (hk : k ∈ aggregateKeywords) :
    ∀ c ∈ k, isBlank c = false := by
  have hall : ∀ k ∈ aggregateKeywords, k.all (fun c => !isBlank c) = true := by decide
  intro c hc
  simpa using List.all_eq_true.mp (hall k hk) c hc

/-- What is behind a keyword and a space: the text must begin with both. -/
theorem findSome?_keyword {w rest : Text} {g : Char} (hw : ∀ c ∈ w, isBlank c = false)
    (hg : isBlank g = true) :
    aggregateKeywords.findSome? (fun k => (k ++ [' ']).isPrefixOf? (w ++ g :: rest)) =
      if w ∈ aggregateKeywords ∧ g = ' ' then some rest else none := by
  have hinv : ∀ k ∈ aggregateKeywords, ∀ r, (k ++ [' ']).isPrefixOf? (w ++ g :: rest) = some r →
      w = k ∧ g = ' ' ∧ rest = r := by
    intro k hk r hr
    have htext := List.append_eq_of_isPrefixOf?_eq_some hr
    rw [List.append_assoc, List.singleton_append] at htext
    exact append_blank_inj hw (isBlank_of_mem_keyword hk) hg isBlank_space htext.symm
  cases hfind : aggregateKeywords.findSome?
      (fun k => (k ++ [' ']).isPrefixOf? (w ++ g :: rest)) with
  | some r =>
    obtain ⟨k, hk, hr⟩ := List.exists_of_findSome?_eq_some hfind
    obtain ⟨rfl, hspace, rfl⟩ := hinv k hk r hr
    rw [if_pos ⟨hk, hspace⟩]
  | none =>
    rw [if_neg]
    rintro ⟨hk, rfl⟩
    have hnone := List.findSome?_eq_none_iff.mp hfind w hk
    have hsome : (w ++ [' ']).isPrefixOf? (w ++ ' ' :: rest) = some rest :=
      List.isPrefixOf?_eq_some_iff_append_eq.mpr (List.append_assoc _ _ _)
    exact absurd (hnone.symm.trans hsome) (Option.some_ne_none _).symm

/-- A name with a blank in it is looked up as it is, and, if its first word is an aggregate keyword
and the blank a space, by what is behind both. -/
theorem SizeMap.find?_append_blank (sizes : SizeMap) {w rest : Text} {g : Char}
    (hw : ∀ c ∈ w, isBlank c = false) (hg : isBlank g = true) :
    sizes.find? (w ++ g :: rest) =
      (sizes.get? (w ++ g :: rest)).or
        (if w ∈ aggregateKeywords ∧ g = ' ' then sizes.get? (trim rest) else none) := by
  rw [SizeMap.find?, findSome?_keyword hw hg]
  by_cases hkeyword : w ∈ aggregateKeywords ∧ g = ' '
  · rw [if_pos hkeyword, if_pos hkeyword]
  · rw [if_neg hkeyword, if_neg hkeyword]

end TypeLens
