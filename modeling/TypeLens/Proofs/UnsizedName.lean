/-
# TypeLens.Proofs.UnsizedName -- user-defined names without a size

Names of user-defined types are compared as they are spelled, names of built-in types in lower case.
A name that the line shows to be user-defined, by a keyword before it or by being a known name, is
looked up in the sizes first; if they do not have it, the table of built-in types decides. Such a
name is therefore unknown exactly when no built-in type is called like it in some letter case, and
if one is, its layout is reported (`atCursor_unsized`). So a user-defined name is not safe from being
taken for a built-in type by being none of their names (`builtin_in_other_case`).
-/
import TypeLens.Proofs.BuiltinHover
import TypeLens.Proofs.LayoutSpacing
import TypeLens.Proofs.Locate.Soundness

namespace TypeLens

/-! ## A word in the sizes and in the table -/

/-- No keyword stands before a text without blanks, so it has a size only under its own name. -/
theorem SizeMap.find?_of_noBlank (sizes : SizeMap) {name : Text}
    (hname : ∀ c ∈ name, isBlank c = false) : sizes.find? name = sizes.get? name := by
  have hkeyword : aggregateKeywords.findSome? (fun k => (k ++ [' ']).isPrefixOf? name) = none := by
    rw [List.findSome?_eq_none_iff]
    intro k _
    cases hdrop : (k ++ [' ']).isPrefixOf? name with
    | none => rfl
    | some rest =>
      have hspace : ' ' ∈ name := by
        rw [← List.append_eq_of_isPrefixOf?_eq_some hdrop]
        simp
      exact absurd (hname ' ' hspace) (by decide)
  rw [SizeMap.find?, hkeyword]
  exact Option.or_none

namespace Builtin

variable {b : Builtin} {name : Text}

/-- The names of the table are single-spaced, so only their letter case is normalised. -/
theorem normalName_name (hb : b ∈ table) : normalName b.name = lower b.name := by
  rw [normalName, collapse_eq_joinWords, (name_wellFormed hb).2.1]

theorem normalName_word (hname : ∀ c ∈ name, isWordChar c = true) :
    normalName name = lower name := by
  rw [normalName, collapse_word hname]

end Builtin

/-! ## Names at a cursor -/

/-- What is seen at the cursor is the name of a user-defined type: the name of a mention, or a
known name. -/
structure LocatesName (known : List Text) (line : Text) (cursor : Int) (s : Sighting) : Prop where
  located : locate known line cursor = some s
  seen : (Strategy.aggregateMention.see known line cursor = some s ∧
      ∀ c ∈ s.text, isWordChar c = true) ∨
    Strategy.knownName.see known line cursor = some s

/-- A piece of a line is not blank, because a word starts it. -/
theorem Cut.collapse_ne_nil {line before piece behind : Text} (h : Cut line before piece behind) :
    collapse piece ≠ [] := by
  obtain ⟨c, rest, hpiece⟩ := List.exists_cons_of_ne_nil h.piece_ne_nil
  have hword : isWordChar c = true := by
    have hhead := h.head
    rwa [hpiece] at hhead
  have hblank := isBlank_of_isWordChar hword
  have hmem : c ∈ collapse piece := by
    rw [collapse, mem_squeeze hblank, mem_trim hblank, hpiece]
    exact List.mem_cons_self
  exact List.ne_nil_of_mem hmem

theorem text_ne_nil_of_seeMention {line : Text} {cursor : Int} {s : Sighting}
    (h : Strategy.seeMention line cursor = some s) : s.text ≠ [] := by
  rw [seeMention_eq] at h
  obtain ⟨⟨p, found⟩, hfirst, rfl⟩ := Option.map_eq_some_iff.mp h
  obtain ⟨⟨_, _, hcut, -⟩, _, _, hword, -⟩ :=
    cutOut_of_mem_mention (List.mem_of_find?_eq_some hfirst)
  dsimp only [Found.seen]
  split
  · exact hword.ne_nil
  · exact hcut.collapse_ne_nil

namespace LocatesName

variable {known : List Text} {line : Text} {cursor : Int} {s : Sighting}

/-- Whichever way it is seen, a name is a word. -/
theorem word (h : LocatesName known line cursor s) :
    s.text ≠ [] ∧ ∀ c ∈ s.text, isWordChar c = true := by
  rcases h.seen with ⟨hmention, hchars⟩ | hknown
  · exact ⟨text_ne_nil_of_seeMention hmention, hchars⟩
  · obtain ⟨_, _, hword, -⟩ := wordIn_of_touchingWord (Option.filter_eq_some_iff.mp hknown).1
    exact ⟨hword.ne_nil, hword.chars⟩

theorem plainName (h : LocatesName known line cursor s) : PlainName s.text := by
  obtain ⟨hne, hchars⟩ := h.word
  exact .of_word hne fun c hc =>
    ⟨isBlank_of_isWordChar (hchars c hc), ne_star_of_isWordChar (hchars c hc)⟩

/-- Without a size of its own, a name has the layout of the built-in type found under it. -/
theorem atCursor?_eq (h : LocatesName known line cursor s) (width : Width) {sizes : SizeMap}
    (hsizes : s.text ∉ sizes.names) :
    Layout.atCursor? width known sizes line cursor =
      (Builtin.find? s.text).map fun b =>
        ⟨s.text, some s.span, .scalar (b.extent width) b.description⟩ := by
  have hfind : sizes.find? s.text = none := by
    rw [sizes.find?_of_noBlank fun c hc => isBlank_of_isWordChar (h.word.2 c hc),
      SizeMap.get?_eq_none_iff]
    exact hsizes
  rw [Layout.atCursor?_eq, h.located, Option.bind_some, h.plainName.ofText?_eq_map,
    Layout.plainShape?, hfind]
  simp only [Option.map_map]
  rfl

/-- The built-in type found under a name is the one that is called like it in some letter case. -/
theorem find?_eq_some_iff (h : LocatesName known line cursor s) {b : Builtin}
    (hb : b ∈ Builtin.table) : Builtin.find? s.text = some b ↔ lower b.name = lower s.text := by
  rw [Builtin.find?_eq_some_iff, Builtin.normalName_name hb, Builtin.normalName_word h.word.2]
  exact and_iff_right hb

theorem find?_eq_none_iff (h : LocatesName known line cursor s) :
    Builtin.find? s.text = none ↔ ∀ b ∈ Builtin.table, lower b.name ≠ lower s.text := by
  rw [Builtin.find?_eq_none_iff, Builtin.normalName_word h.word.2]
  refine forall₂_congr fun b hb => ?_
  rw [Builtin.normalName_name hb]

end LocatesName

namespace Layout

/-- **User-defined names without a size.** At the name of a user-defined type that has no size,
nothing is known if no built-in type is called like it in some letter case, and if one is, what is
reported is the layout of that type. -/
theorem atCursor_unsized {known : List Text} {line : Text} {cursor : Int} {s : Sighting}
    (h : LocatesName known line cursor s) (width : Width) {sizes : SizeMap}
    (hsizes : s.text ∉ sizes.names) :
    (atCursor? width known sizes line cursor = none ↔
      ∀ b ∈ Builtin.table, lower b.name ≠ lower s.text) ∧
    ∀ b ∈ Builtin.table, lower b.name = lower s.text →
      atCursor? width known sizes line cursor =
        some ⟨s.text, some s.span, .scalar (b.extent width) b.description⟩ := by
  rw [h.atCursor?_eq width hsizes]
  constructor
  · rw [Option.map_eq_none_iff]
    exact h.find?_eq_none_iff
  · intro b hb hname
    rw [(h.find?_eq_some_iff hb).mpr hname]
    rfl

/-- A known name that is called like no built-in type, and the name of a mention that is `bool` in
capitals. -/
theorem atCursor_unsized_spellings :
    atCursor? .bits64 ["Handle".toList] [("Node".toList, 16)] "Handle h;".toList 1 = none ∧
    atCursor? .bits32 [] [("Node".toList, 16)] "struct BOOL b;".toList 8 =
      some ⟨"BOOL".toList, some ⟨7, 11⟩, .scalar ⟨1, 1⟩ "Boolean type (C++)".toList⟩ := by
  constructor
  · have hname : LocatesName ["Handle".toList] "Handle h;".toList 1 ⟨"Handle".toList, ⟨0, 6⟩⟩ :=
      ⟨by decide +kernel, .inr (by decide +kernel)⟩
    exact (atCursor_unsized hname .bits64 (by decide)).1.mpr (by decide +kernel)
  · have hname : LocatesName [] "struct BOOL b;".toList 8 ⟨"BOOL".toList, ⟨7, 11⟩⟩ :=
      ⟨by decide +kernel, .inl ⟨by decide +kernel, List.all_eq_true.mp (by decide +kernel)⟩⟩
    have hrow : Builtin.row "bool" 1 1 1 1 "Boolean type (C++)" ∈ Builtin.table := by
      decide +kernel
    exact (atCursor_unsized hname .bits32 (by decide)).2 _ hrow (by decide +kernel)

/-- **Being none of the built-in names is not enough.** `Int` is none of them and has no size, but
where it is a known name the layout of `int` is reported for it. -/
theorem builtin_in_other_case :
    let known := ["Int".toList]
    let line := "Int x;".toList
    LocatesName known line 0 ⟨"Int".toList, ⟨0, 3⟩⟩ ∧
    "Int".toList ∉ Builtin.table.map Builtin.name ∧
    atCursor? .bits64 known [] line 0 =
      some ⟨"Int".toList, some ⟨0, 3⟩,
        .scalar ⟨4, 4⟩ "Standard integer, typically 32-bit".toList⟩ ∧
    ¬ ∀ (width : Width) (known : List Text) (sizes : SizeMap) (line : Text) (cursor : Int)
        (s : Sighting), LocatesName known line cursor s → s.text ∉ sizes.names →
          s.text ∉ Builtin.table.map Builtin.name →
            atCursor? width known sizes line cursor = none := by
  intro known line
  have hname : LocatesName known line 0 ⟨"Int".toList, ⟨0, 3⟩⟩ :=
    ⟨by decide +kernel, .inr (by decide +kernel)⟩
  have htable : "Int".toList ∉ Builtin.table.map Builtin.name := by decide +kernel
  have hlayout : atCursor? .bits64 known [] line 0 =
      some ⟨"Int".toList, some ⟨0, 3⟩,
        .scalar ⟨4, 4⟩ "Standard integer, typically 32-bit".toList⟩ := by decide +kernel
  refine ⟨hname, htable, hlayout, ?_⟩
  intro hall
  have hnone := hall .bits64 known [] line 0 _ hname List.not_mem_nil htable
  rw [hlayout] at hnone
  exact Option.some_ne_none _ hnone

end Layout

end TypeLens
