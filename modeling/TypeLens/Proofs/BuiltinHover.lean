/-
# TypeLens.Proofs.BuiltinHover -- built-in types are recognised in any line

A built-in type whose words are all in the vocabulary, in any spacing, is recognised at every cursor
on it, whatever stands around it, as long as it stands by itself (`Standalone`) and neither one of
its words nor its whole name means something else to the user (`atCursor_builtin`). What is behind
it decides between two answers: with stars and a word directly behind them the type is a pointer,
and else it is the built-in type itself.

Rows with a word outside the vocabulary (`ssize_t`, `off_t`, `time_t`) are left out: no strategy
sees them.
-/
import TypeLens.Proofs.BuiltinNames
import TypeLens.Proofs.LayoutOfName
import TypeLens.Proofs.Locate.Standalone

namespace TypeLens

/-! ## The table -/

namespace Builtin

variable {b : Builtin}

/-- A name is its words with single spaces between them, and no aggregate keyword is among them. -/
theorem name_wellFormed (hb : b ∈ table) :
    words b.name ≠ [] ∧ joinWords (words b.name) = b.name ∧
      (∀ w ∈ words b.name, w ∉ aggregateKeywords) ∧
      aggregateKeywords.findSome? (fun k => (k ++ [' ']).isPrefixOf? b.name) = none := by
  have hall : ∀ b ∈ table, words b.name ≠ [] ∧ joinWords (words b.name) = b.name ∧
      (∀ w ∈ words b.name, w ∉ aggregateKeywords) ∧
      aggregateKeywords.findSome? (fun k => (k ++ [' ']).isPrefixOf? b.name) = none := by
    decide +kernel
  exact hall b hb

/-- A name is a spelling of its words. -/
theorem spelled_name (hb : b ∈ table) : Spelled (words b.name) b.name := by
  obtain ⟨hne, hjoin, -⟩ := name_wellFormed hb
  have hspelled := spelled_joinWords hne
  rwa [hjoin] at hspelled

theorem name_ne_nil (hb : b ∈ table) : b.name ≠ [] := by
  intro hnil
  have hwords := (name_wellFormed hb).1
  rw [hnil] at hwords
  exact hwords rfl

theorem plainName (hb : b ∈ table) (hstar : '*' ∉ b.name) : PlainName b.name :=
  ⟨name_ne_nil hb, (name_wellFormed hb).2.1, hstar⟩

end Builtin

/-! ## Layouts of names -/

namespace Layout

section Name

variable {b : Builtin} (hb : b ∈ Builtin.table) {sizes : SizeMap}
  (hsizes : sizes.get? b.name = none) (width : Width)

include hb hsizes

/-- A name that is no user-defined type is the built-in type. -/
theorem plainShape?_name :
    plainShape? width sizes b.name = some (.scalar (b.extent width) b.description) := by
  have hfind : sizes.find? b.name = none := by
    rw [SizeMap.find?, hsizes, (Builtin.name_wellFormed hb).2.2.2]
    rfl
  rw [plainShape?, hfind, Builtin.find?_name hb]
  rfl

variable (hstar : '*' ∉ b.name)

include hstar

theorem ofText?_name :
    ofText? width sizes b.name =
      some ⟨b.name, none, .scalar (b.extent width) b.description⟩ :=
  (Builtin.plainName hb hstar).ofText?_eq (plainShape?_name hb hsizes width)

theorem ofText?_name_append {space stars : Text} (hspace : ∀ c ∈ space, isBlank c = true)
    (hstars : ∀ c ∈ stars, c = '*') (hne : stars ≠ []) :
    ofText? width sizes (b.name ++ space ++ stars) =
      some ⟨b.name ++ space ++ stars, none,
        .pointer width.pointerSize (some ⟨b.name, b.description⟩)⟩ :=
  (Builtin.plainName hb hstar).ofText?_append_stars (plainShape?_name hb hsizes width)
    hspace hstars hne

end Name

end Layout

/-! ## What stands behind a type -/

/-- The text begins with the blanks `gap` and the stars `stars`, and directly behind them with a
word. -/
structure Starred (gap stars q : Text) : Prop where
  blank_gap : ∀ c ∈ gap, isBlank c = true
  star_stars : ∀ c ∈ stars, c = '*'
  stars_ne_nil : stars ≠ []
  word : ∃ rest, q = gap ++ stars ++ rest ∧ inWord rest.head? = true

/-- Read from the front, the blanks come first, then the stars, then a word. -/
theorem Starred.runs {gap stars q : Text} (h : Starred gap stars q) :
    q.takeWhile isBlank = gap ∧ (q.dropWhile isBlank).takeWhile (· == '*') = stars ∧
      inWord ((q.dropWhile isBlank).dropWhile (· == '*')).head? = true := by
  obtain ⟨rest, rfl, hword⟩ := h.word
  have hstars : ∀ c ∈ stars, (c == '*') = true := by simpa using h.star_stars
  have hnoStar : rest.takeWhile (· == '*') = [] ∧ rest.dropWhile (· == '*') = rest := by
    cases rest with
    | nil => exact ⟨rfl, rfl⟩
    | cons d rest =>
      have hd : (d == '*') = false := by simpa using ne_star_of_isWordChar hword
      simp [hd]
  have hnoBlank : (stars ++ rest).takeWhile isBlank = [] ∧
      (stars ++ rest).dropWhile isBlank = stars ++ rest := by
    obtain ⟨c, stars, rfl⟩ := List.exists_cons_of_ne_nil h.stars_ne_nil
    have hc : isBlank c = false := by
      rw [h.star_stars c (by simp)]
      exact isBlank_star
    simp [hc]
  have hdrop : (gap ++ stars ++ rest).dropWhile isBlank = stars ++ rest := by
    rw [List.append_assoc, List.dropWhile_append_of_pos h.blank_gap, hnoBlank.2]
  refine ⟨?_, ?_, ?_⟩
  · rw [List.append_assoc, List.takeWhile_append_of_pos h.blank_gap, hnoBlank.1, List.append_nil]
  · rw [hdrop, List.takeWhile_append_of_pos (p := (· == '*')) hstars, hnoStar.1, List.append_nil]
  · rwa [hdrop, List.dropWhile_append_of_pos (p := (· == '*')) hstars, hnoStar.2]

/-- Stars that a word follows directly, behind the blanks at the front. -/
theorem starred_of_runs {q : Text} (hne : (q.dropWhile isBlank).takeWhile (· == '*') ≠ [])
    (hword : inWord ((q.dropWhile isBlank).dropWhile (· == '*')).head? = true) :
    Starred (q.takeWhile isBlank) ((q.dropWhile isBlank).takeWhile (· == '*')) q := by
  refine ⟨?_, ?_, hne, _, ?_, hword⟩
  · intro c hc
    exact List.mem_takeWhile_imp hc
  · intro c hc
    have hstar : (c == '*') = true := List.mem_takeWhile_imp (p := (· == '*')) hc
    exact beq_iff_eq.mp hstar
  · rw [List.append_assoc, List.takeWhile_append_dropWhile, List.takeWhile_append_dropWhile]

/-- The tail of an expression is then the blanks and the stars. -/
theorem Starred.take_compositeTail {gap stars q : Text} (h : Starred gap stars q) :
    compositeTail q = gap.length + stars.length ∧ q.take (compositeTail q) = gap ++ stars := by
  obtain ⟨hgap, hstars, hword⟩ := h.runs
  have htail : compositeTail q = gap.length + stars.length := by
    rw [compositeTail, if_pos hword, runLength, runLength, hgap, hstars]
  refine ⟨htail, ?_⟩
  obtain ⟨rest, hq, -⟩ := h.word
  rw [htail, ← List.length_append, hq, List.take_left]

/-- The blanks before the stars are single-spaced, and nothing is trimmed. -/
theorem collapse_starred {gap stars q t : Text} (hne : t ≠ []) (hstart : startsBlank t = false)
    (hend : endsBlank t = false) (h : Starred gap stars q) :
    collapse (t ++ (gap ++ stars)) = squeeze t ++ (if gap = [] then [] else [' ']) ++ stars := by
  have hnoBlank : ∀ c ∈ stars, isBlank c = false := by
    intro c hc
    rw [h.star_stars c hc]
    exact isBlank_star
  have hfirst : startsBlank (t ++ (gap ++ stars)) = false := by rwa [startsBlank_append hne]
  have hlast : endsBlank (t ++ (gap ++ stars)) = false := by
    rw [← List.append_assoc]
    exact endsBlank_append_stars _ h.star_stars h.stars_ne_nil
  rw [collapse, trim_eq_self hfirst hlast, squeeze_append hend, List.append_assoc]
  by_cases hgap : gap = []
  · rw [hgap, if_pos rfl, List.nil_append, squeeze_eq_self hnoBlank]
  · have hstars : startsBlank stars = false := by
      obtain ⟨c, rest, rfl⟩ := List.exists_cons_of_ne_nil h.stars_ne_nil
      exact hnoBlank c (by simp)
    rw [if_neg hgap, squeeze_blanks_append hgap h.blank_gap hstars, squeeze_eq_self hnoBlank,
      List.singleton_append]

/-- Without stars that a word follows directly, the tail is blank. -/
theorem isBlank_of_mem_tail {q : Text} (h : ∀ gap stars, ¬ Starred gap stars q) :
    ∀ c ∈ q.take (compositeTail q), isBlank c = true := by
  intro c hc
  rw [compositeTail] at hc
  split at hc
  · rename_i hword
    by_cases hnil : (q.dropWhile isBlank).takeWhile (· == '*') = []
    · rw [runLength, runLength, hnil, List.length_nil, Nat.add_zero,
        ← List.prefix_iff_eq_take.mp (List.takeWhile_prefix isBlank)] at hc
      exact List.mem_takeWhile_imp hc
    · exact absurd (starred_of_runs hnil hword) (h _ _)
  · simp at hc

namespace Layout

theorem atCursor?_of_locate {width : Width} {known : List Text} {sizes : SizeMap} {line text : Text}
    {c : Int} {span : Span} {shape : Shape}
    (hlocate : locate known line c = some ⟨text, span⟩)
    (hshape : ofText? width sizes text = some ⟨text, none, shape⟩) :
    atCursor? width known sizes line c = some ⟨text, some span, shape⟩ := by
  simp only [atCursor?, hlocate, hshape, bind, Option.bind_some, pure]

/-- **Built-in types are recognised.** At every cursor on a built-in type, in any spacing, that
stands by itself, the layout is that of a pointer to it if stars follow with a word directly behind
them, and else that of the type itself. -/
theorem atCursor_builtin {b : Builtin} (hb : b ∈ Builtin.table)
    (hvocabulary : ∀ w ∈ words b.name, w ∈ vocabulary) {p t q : Text}
    (ht : Spelled (words b.name) t) (hpq : Standalone p q) {known : List Text}
    (hknown : ∀ w ∈ words b.name, w ∉ known) {sizes : SizeMap}
    (hsizes : sizes.get? b.name = none) (width : Width) {c : Int}
    (hlow : p.length ≤ c) (hhigh : c ≤ p.length + t.length) :
    (∀ gap stars, Starred gap stars q →
      atCursor? width known sizes (p ++ t ++ q) c =
        some ⟨b.name ++ (if gap = [] then [] else [' ']) ++ stars,
          some ⟨p.length, (p.length + t.length + gap.length + stars.length : Nat)⟩,
          .pointer width.pointerSize (some ⟨b.name, b.description⟩)⟩) ∧
    ((∀ gap stars, ¬ Starred gap stars q) →
      atCursor? width known sizes (p ++ t ++ q) c =
        some ⟨b.name, some ⟨p.length, (p.length + t.length + compositeTail q : Nat)⟩,
          .scalar (b.extent width) b.description⟩) := by
  obtain ⟨-, hjoin, hplain, -⟩ := Builtin.name_wellFormed hb
  have hwords : ∀ w ∈ words b.name, w ≠ [] ∧ ∀ c ∈ w, isBlank c = false := fun w hw => mem_words hw
  -- the expression with its tail is seen; what is left is to read its text
  have hlocate := locate_spelled ht hvocabulary hpq hlow hhigh hplain hknown
  have hstar := (Builtin.spelled_name hb).star_not_mem hvocabulary
  have hsqueeze : squeeze t = b.name := by rw [ht.squeeze_eq hwords, hjoin]
  have hstart := ht.startsBlank_eq hwords
  have hend := ht.endsBlank_eq hwords
  have hne : t ≠ [] := by
    rintro rfl
    exact absurd hsqueeze.symm (Builtin.name_ne_nil hb)
  constructor
  · intro gap stars hstarred
    obtain ⟨hlength, htake⟩ := hstarred.take_compositeTail
    have htext : collapse (t ++ q.take (compositeTail q)) =
        b.name ++ (if gap = [] then [] else [' ']) ++ stars := by
      rw [htake, collapse_starred hne hstart hend hstarred, hsqueeze]
    have hspace : ∀ c ∈ (if gap = [] then [] else [' '] : Text), isBlank c = true := by
      split
      · simp
      · simp [isBlank_space]
    rw [htext, hlength, ← Nat.add_assoc, ← Nat.add_assoc] at hlocate
    exact atCursor?_of_locate hlocate (ofText?_name_append hb hsizes width hstar hspace
      hstarred.star_stars hstarred.stars_ne_nil)
  · intro hnone
    have htext : collapse (t ++ q.take (compositeTail q)) = b.name := by
      rw [collapse, trim_append_blanks hstart hend (isBlank_of_mem_tail hnone), hsqueeze]
    rw [htext, ← Nat.add_assoc] at hlocate
    exact atCursor?_of_locate hlocate (ofText?_name hb hsizes width hstar)

/-- Behind a word that only begins like a specifier, in front of stars that a word follows, and in
front of stars that no word follows. -/
theorem atCursor_unsigned_long :
    atCursor? .bits64 ["Node".toList] [("Node".toList, 16)]
        "signedly unsigned \t long  **p;".toList 18 =
      some ⟨"unsigned long **".toList, some ⟨9, 28⟩,
        .pointer 8 (some ⟨"unsigned long".toList, "Unsigned long integer".toList⟩)⟩ ∧
    atCursor? .bits32 ["Node".toList] [("Node".toList, 16)]
        "signedly unsigned \t long  **;".toList 24 =
      some ⟨"unsigned long".toList, some ⟨9, 24⟩,
        .scalar ⟨4, 4⟩ "Unsigned long integer".toList⟩ := by
  let b := Builtin.row "unsigned long" 4 4 8 8 "Unsigned long integer"
  have hb : b ∈ Builtin.table := by decide +kernel
  have hwords : words b.name = ["unsigned".toList, "long".toList] := by decide +kernel
  have hvocabulary : ∀ w ∈ words b.name, w ∈ vocabulary := by decide +kernel
  have hknown : ∀ w ∈ words b.name, w ∉ ["Node".toList] := by decide +kernel
  have hsizes : SizeMap.get? [("Node".toList, 16)] b.name = none := by decide +kernel
  have ht : Spelled (words b.name) ("unsigned".toList ++ " \t ".toList ++ "long".toList) := by
    rw [hwords]
    exact .more _ (by decide) (List.all_eq_true.mp (by decide)) (.one _)
  constructor
  · have hpq : Standalone "signedly ".toList "  **p;".toList := by decide +kernel
    have hstarred : Starred "  ".toList "**".toList "  **p;".toList :=
      ⟨List.all_eq_true.mp (by decide), by simp, by decide, "p;".toList, by decide, by decide⟩
    exact (atCursor_builtin hb hvocabulary ht hpq hknown hsizes .bits64 (by decide)
      (by decide)).1 _ _ hstarred
  · have hpq : Standalone "signedly ".toList "  **;".toList := by decide +kernel
    have hnone : ∀ gap stars, ¬ Starred gap stars "  **;".toList := by
      intro gap stars hstarred
      have htail : compositeTail "  **;".toList = 0 := by decide
      have hlength := hstarred.take_compositeTail.1
      have hpos := List.length_pos_of_ne_nil hstarred.stars_ne_nil
      omega
    exact (atCursor_builtin hb hvocabulary ht hpq hknown hsizes .bits32 (by decide)
      (by decide)).2 hnone

end Layout

end TypeLens
