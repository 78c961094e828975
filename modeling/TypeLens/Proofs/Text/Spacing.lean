/-
# TypeLens.Proofs.Text.Spacing -- spellings of a list of words

A list of words is spelled by putting a run of blanks between neighbours (`Spelled`). Words and runs
are free, so a list has many spellings; single spacing takes all of them to one text
(`Spelled.squeeze_eq`), and blanks behind a text change neither its words nor what trimming leaves
of it. Trimming leaves nothing to trim, also after single spacing (`trim_trim`, `trim_collapse`).

Every trimmed text is a spelling of its words (`spelled_words`), so the single-spaced form of a text
is its words with one space between neighbours, and nothing else (`collapse_eq_joinWords`).
-/
import Mathlib.Data.List.Basic
import Mathlib.Data.List.TakeWhile
import TypeLens.Text.Blank

namespace TypeLens

/-! ## Blanks at the end -/

/-- Whether the text ends with a blank. -/
def endsBlank (text : Text) : Bool := text.getLast?.any isBlank

theorem endsBlank_cons (c : Char) {x : Text} (h : x ≠ []) : endsBlank (c :: x) = endsBlank x := by
  rw [endsBlank, List.getLast?_cons_of_ne_nil h, endsBlank]

theorem endsBlank_append (x : Text) {y : Text} (h : y ≠ []) :
    endsBlank (x ++ y) = endsBlank y := by
  rw [endsBlank, List.getLast?_append_of_ne_nil _ h, endsBlank]

theorem endsBlank_blanks {gap : Text} (hne : gap ≠ []) (hgap : ∀ c ∈ gap, isBlank c = true) :
    endsBlank gap = true := by
  rw [endsBlank, List.getLast?_eq_some_getLast hne]
  exact hgap _ (List.getLast_mem hne)

theorem startsBlank_append {x : Text} (h : x ≠ []) (y : Text) :
    startsBlank (x ++ y) = startsBlank x := by
  cases x with
  | nil => exact absurd rfl h
  | cons c x => rfl

theorem dropWhile_eq_self_of_startsBlank {text : Text} (h : startsBlank text = false) :
    text.dropWhile isBlank = text := by
  cases text with
  | nil => rfl
  | cons c rest => exact List.dropWhile_cons_of_neg (by simpa [startsBlank] using h)

theorem startsBlank_reverse (text : Text) : startsBlank text.reverse = endsBlank text := by
  rw [endsBlank, ← List.head?_reverse]
  cases text.reverse <;> rfl

/-- Trimming takes blanks behind a text that has none at its ends. -/
theorem trim_append_blanks {x gap : Text} (hstart : startsBlank x = false)
    (hend : endsBlank x = false) (hgap : ∀ c ∈ gap, isBlank c = true) : trim (x ++ gap) = x := by
  by_cases hx : x = []
  · subst hx
    have hnil : (gap ++ []).dropWhile isBlank = [] := List.dropWhile_append_of_pos hgap
    rw [List.append_nil] at hnil
    rw [List.nil_append, trim, hnil]
    rfl
  · have hfront : (x ++ gap).dropWhile isBlank = x ++ gap :=
      dropWhile_eq_self_of_startsBlank (by rw [startsBlank_append hx, hstart])
    have hback : (gap.reverse ++ x.reverse).dropWhile isBlank = x.reverse := by
      rw [List.dropWhile_append_of_pos (fun c hc => hgap c (List.mem_reverse.mp hc))]
      exact dropWhile_eq_self_of_startsBlank (by rw [startsBlank_reverse, hend])
    rw [trim, hfront, List.reverse_append, hback, List.reverse_reverse]

theorem trim_eq_self {x : Text} (hstart : startsBlank x = false) (hend : endsBlank x = false) :
    trim x = x := by
  have hnone : ∀ c ∈ ([] : Text), isBlank c = true := by simp
  have h := trim_append_blanks hstart hend hnone
  rwa [List.append_nil] at h

theorem endsBlank_word {x : Text} (h : ∀ c ∈ x, isBlank c = false) : endsBlank x = false := by
  rw [endsBlank, Option.any_eq_false]
  intro c hc
  exact h c (List.mem_of_getLast? hc)

/-- There is nothing to trim where there is no blank. -/
theorem trim_word {x : Text} (h : ∀ c ∈ x, isBlank c = false) : trim x = x := by
  apply trim_eq_self
  · cases x with
    | nil => rfl
    | cons c x => exact h c (by simp)
  · exact endsBlank_word h

theorem startsBlank_dropWhile (text : Text) : startsBlank (text.dropWhile isBlank) = false := by
  induction text with
  | nil => rfl
  | cons c rest ih =>
    by_cases hc : isBlank c = true
    · rwa [List.dropWhile_cons_of_pos hc]
    · rw [List.dropWhile_cons_of_neg hc]
      exact Bool.eq_false_iff.mpr hc

/-- A trimmed text is a front of the text without its leading blanks, and blanks follow it there. -/
theorem exists_trim_append (text : Text) :
    ∃ back, (∀ c ∈ back, isBlank c = true) ∧ text.dropWhile isBlank = trim text ++ back := by
  refine ⟨((text.dropWhile isBlank).reverse.takeWhile isBlank).reverse, ?_, ?_⟩
  · intro c hc
    exact List.mem_takeWhile_imp (List.mem_reverse.mp hc)
  · rw [trim, ← List.reverse_append, List.takeWhile_append_dropWhile, List.reverse_reverse]

/-- A text is what trimming leaves of it, with blanks on either side. -/
theorem exists_blanks_trim (text : Text) :
    ∃ lead trail, (∀ c ∈ lead, isBlank c = true) ∧ (∀ c ∈ trail, isBlank c = true) ∧
      text = lead ++ trim text ++ trail := by
  obtain ⟨trail, htrail, hsplit⟩ := exists_trim_append text
  refine ⟨text.takeWhile isBlank, trail, fun c hc => List.mem_takeWhile_imp hc, htrail, ?_⟩
  rw [List.append_assoc, ← hsplit, List.takeWhile_append_dropWhile]

theorem startsBlank_trim (text : Text) : startsBlank (trim text) = false := by
  by_cases hnil : trim text = []
  · rw [hnil]
    rfl
  · obtain ⟨back, -, hsplit⟩ := exists_trim_append text
    rw [← startsBlank_append hnil, ← hsplit, startsBlank_dropWhile]

theorem endsBlank_trim (text : Text) : endsBlank (trim text) = false := by
  rw [← startsBlank_reverse, trim, List.reverse_reverse, startsBlank_dropWhile]

theorem trim_trim (text : Text) : trim (trim text) = trim text :=
  trim_eq_self (startsBlank_trim text) (endsBlank_trim text)

/-- Blanks before a text are trimmed with those that it begins with. -/
theorem trim_blanks_append {gap : Text} (hgap : ∀ c ∈ gap, isBlank c = true) (x : Text) :
    trim (gap ++ x) = trim x := by
  rw [trim, List.dropWhile_append_of_pos hgap, trim]

theorem mem_dropWhile_isBlank {c : Char} (hc : isBlank c = false) (text : Text) :
    c ∈ text.dropWhile isBlank ↔ c ∈ text := by
  conv_rhs => rw [← List.takeWhile_append_dropWhile (p := isBlank) (l := text), List.mem_append]
  have hnot : c ∉ text.takeWhile isBlank := by
    intro hmem
    exact Bool.false_ne_true (hc.symm.trans (List.mem_takeWhile_imp hmem))
  rw [or_iff_right hnot]

/-- Only blanks are trimmed. -/
theorem mem_trim {c : Char} (hc : isBlank c = false) (text : Text) : c ∈ trim text ↔ c ∈ text := by
  rw [trim, List.mem_reverse, mem_dropWhile_isBlank hc, List.mem_reverse, mem_dropWhile_isBlank hc]

/-- Blanks before a text belong to no word. -/
theorem words_blanks_append {gap : Text} (hgap : ∀ c ∈ gap, isBlank c = true) (x : Text) :
    words (gap ++ x) = words x := by
  induction gap with
  | nil => rfl
  | cons c gap ih =>
    rw [List.cons_append, words_cons_of_isBlank (hgap c (by simp))]
    exact ih fun d hd => hgap d (List.mem_cons_of_mem _ hd)

theorem words_ne_nil {text : Text} (hne : text ≠ []) (hstart : startsBlank text = false) :
    words text ≠ [] := by
  obtain ⟨c, rest, rfl⟩ := List.exists_cons_of_ne_nil hne
  have hc : isBlank c = false := hstart
  rw [words, if_neg (by simp [hc])]
  split
  · exact List.cons_ne_nil _ _
  · cases words rest <;> exact List.cons_ne_nil _ _

/-- The words of a text are those before and those behind any one of its blanks. -/
theorem words_append_break (x : Text) {g : Char} (hg : isBlank g = true) (y : Text) :
    words (x ++ g :: y) = words x ++ words y := by
  induction x with
  | nil => exact words_cons_of_isBlank hg y
  | cons c rest ih =>
    rw [List.cons_append, words, words, ih]
    by_cases hc : isBlank c = true
    · rw [if_pos hc, if_pos hc]
    · rw [if_neg hc, if_neg hc]
      by_cases hrest : rest = []
      · -- the word ends here, before the blank as before the end of the text
        subst hrest
        rw [if_pos (by simpa [startsBlank] using hg), if_pos (by rfl)]
        rfl
      · have hempty : (rest ++ g :: y).isEmpty = rest.isEmpty := by
          obtain ⟨d, rest, rfl⟩ := List.exists_cons_of_ne_nil hrest
          rfl
        rw [startsBlank_append hrest, hempty]
        split
        · rfl
        · rename_i hgoes
          have hstart : startsBlank rest = false := by
            rw [Bool.not_eq_true, Bool.or_eq_false_iff] at hgoes
            exact hgoes.2
          obtain ⟨w, ws, hws⟩ := List.exists_cons_of_ne_nil (words_ne_nil hrest hstart)
          rw [hws]
          rfl

/-- Blanks behind a text belong to no word. -/
theorem words_append_blanks (x : Text) {gap : Text} (hgap : ∀ c ∈ gap, isBlank c = true) :
    words (x ++ gap) = words x := by
  cases gap with
  | nil => rw [List.append_nil]
  | cons g gap =>
    have hnone : words (gap ++ []) = words [] :=
      words_blanks_append (fun c hc => hgap c (List.mem_cons_of_mem _ hc)) []
    rw [List.append_nil] at hnone
    rw [words_append_break x (hgap g (by simp)), hnone, words, List.append_nil]

/-- Trimming takes no word away. -/
theorem words_trim (text : Text) : words (trim text) = words text := by
  obtain ⟨lead, trail, hlead, htrail, hsplit⟩ := exists_blanks_trim text
  conv_rhs => rw [hsplit]
  rw [words_append_blanks _ htrail, words_blanks_append hlead]

/-- A word at the front of a text ends where a blank follows it, or the end of the text. -/
theorem words_word_append {w rest : Text} (hne : w ≠ []) (hw : ∀ c ∈ w, isBlank c = false)
    (hrest : (rest.isEmpty || startsBlank rest) = true) : words (w ++ rest) = w :: words rest := by
  induction w with
  | nil => exact absurd rfl hne
  | cons c w ih =>
    have hc : isBlank c = false := hw c (by simp)
    rw [List.cons_append, words, if_neg (by simp [hc])]
    by_cases hnil : w = []
    · subst hnil
      rw [List.nil_append, if_pos hrest]
    · have hlater : ∀ d ∈ w, isBlank d = false := fun d hd => hw d (List.mem_cons_of_mem _ hd)
      have hgoes : ((w ++ rest).isEmpty || startsBlank (w ++ rest)) = false := by
        obtain ⟨d, w, rfl⟩ := List.exists_cons_of_ne_nil hnil
        exact hlater d (by simp)
      rw [if_neg (by simp [hgoes]), ih hnil hlater, extendFirst]

theorem words_word {w : Text} (hne : w ≠ []) (hw : ∀ c ∈ w, isBlank c = false) : words w = [w] := by
  have h : words (w ++ []) = [w] := words_word_append hne hw rfl
  rwa [List.append_nil] at h

/-! ## Single spacing of parts -/

theorem squeeze_append {x : Text} (h : endsBlank x = false) (y : Text) :
    squeeze (x ++ y) = squeeze x ++ squeeze y := by
  induction x with
  | nil => rfl
  | cons c rest ih =>
    by_cases hrest : rest = []
    · subst hrest
      have hc : isBlank c = false := by simpa [endsBlank] using h
      simp [squeeze, hc]
    · have hlast : endsBlank rest = false := by
        rwa [endsBlank_cons c hrest] at h
      rw [List.cons_append, squeeze, squeeze, startsBlank_append hrest, ih hlast]
      split
      · split <;> rfl
      · rfl

theorem squeeze_eq_self {x : Text} (h : ∀ c ∈ x, isBlank c = false) : squeeze x = x := by
  induction x with
  | nil => rfl
  | cons c rest ih =>
    rw [squeeze, if_neg (by simp [h c (by simp)]), ih fun d hd => h d (List.mem_cons_of_mem _ hd)]

theorem squeeze_ne_nil {x : Text} (h : x ≠ []) : squeeze x ≠ [] := by
  induction x with
  | nil => exact absurd rfl h
  | cons c rest ih =>
    rw [squeeze]
    split
    · split
      · rename_i hrest
        exact ih (by rintro rfl; exact Bool.false_ne_true hrest)
      · exact List.cons_ne_nil _ _
    · exact List.cons_ne_nil _ _

/-- Only blanks are squeezed. -/
theorem mem_squeeze {c : Char} (hc : isBlank c = false) (x : Text) : c ∈ squeeze x ↔ c ∈ x := by
  induction x with
  | nil => rfl
  | cons d rest ih =>
    rw [squeeze]
    split
    · rename_i hd
      have hne : ∀ b, isBlank b = true → c ≠ b := by
        rintro b hb rfl
        exact Bool.false_ne_true (hc.symm.trans hb)
      rw [List.mem_cons, or_iff_right (hne d hd), ← ih]
      split
      · rfl
      · rw [List.mem_cons, or_iff_right (hne ' ' isBlank_space)]
    · rw [List.mem_cons, List.mem_cons, ih]

/-- Where no blank is left there was none. -/
theorem squeeze_eq_self_of_squeeze {x : Text} (h : ∀ c ∈ squeeze x, isBlank c = false) :
    squeeze x = x := by
  have hspace : ¬ isBlank ' ' = false := by simp [isBlank_space]
  induction x with
  | nil => rfl
  | cons c rest ih =>
    rw [squeeze] at h ⊢
    split at h
    · rename_i hc
      split at h
      · rename_i hrest
        rw [ih h] at h
        obtain ⟨d, rest, rfl⟩ : ∃ d rest', rest = d :: rest' :=
          List.exists_cons_of_ne_nil (by rintro rfl; exact Bool.false_ne_true hrest)
        exact absurd ((h d (by simp)).symm.trans hrest) Bool.false_ne_true
      · exact absurd (h ' ' (by simp)) hspace
    · rename_i hc
      rw [if_neg hc, ih fun d hd => h d (List.mem_cons_of_mem _ hd)]

theorem startsBlank_squeeze (x : Text) : startsBlank (squeeze x) = startsBlank x := by
  induction x with
  | nil => rfl
  | cons c rest ih =>
    rw [squeeze]
    split
    · rename_i hc
      split
      · rename_i hrest
        exact (ih.trans hrest).trans hc.symm
      · exact isBlank_space.trans hc.symm
    · rfl

theorem endsBlank_squeeze (x : Text) : endsBlank (squeeze x) = endsBlank x := by
  induction x with
  | nil => rfl
  | cons c rest ih =>
    by_cases hrest : rest = []
    · subst hrest
      by_cases hc : isBlank c = true
      · simp [squeeze, startsBlank, endsBlank, hc, isBlank_space]
      · simp [squeeze, hc]
    · rw [endsBlank_cons c hrest, squeeze, ← ih]
      split
      · split
        · rfl
        · exact endsBlank_cons _ (squeeze_ne_nil hrest)
      · exact endsBlank_cons _ (squeeze_ne_nil hrest)

/-- A text that is trimmed before it is single-spaced stays trimmed. -/
theorem trim_collapse (text : Text) : trim (collapse text) = collapse text := by
  apply trim_eq_self
  · rw [collapse, startsBlank_squeeze, startsBlank_trim]
  · rw [collapse, endsBlank_squeeze, endsBlank_trim]

/-- A run of blanks before something else becomes one space. -/
theorem squeeze_blanks_append {gap : Text} (hne : gap ≠ []) (hgap : ∀ c ∈ gap, isBlank c = true)
    {y : Text} (hy : startsBlank y = false) : squeeze (gap ++ y) = ' ' :: squeeze y := by
  induction gap with
  | nil => exact absurd rfl hne
  | cons c rest ih =>
    rw [List.cons_append, squeeze, if_pos (hgap c (by simp))]
    by_cases hrest : rest = []
    · rw [hrest, List.nil_append, if_neg (by simp [hy])]
    · have hblank : startsBlank (rest ++ y) = true := by
        obtain ⟨d, rest, rfl⟩ := List.exists_cons_of_ne_nil hrest
        exact hgap d (by simp)
      rw [if_pos hblank]
      exact ih hrest fun d hd => hgap d (List.mem_cons_of_mem _ hd)

/-! ## Spellings -/

theorem joinWords_singleton (w : Text) : joinWords [w] = w := List.intercalate_singleton

theorem joinWords_cons {ws : List Text} (w : Text) (h : ws ≠ []) :
    joinWords (w :: ws) = w ++ [' '] ++ joinWords ws := by
  obtain ⟨v, vs, rfl⟩ := List.exists_cons_of_ne_nil h
  exact List.intercalate_cons_cons

theorem joinWords_pair (v w : Text) : joinWords [v, w] = v ++ [' '] ++ w := by
  rw [joinWords_cons v (List.cons_ne_nil _ _), joinWords_singleton]

/-- A spelling of a list of words: the words in order, with a run of blanks between neighbours. -/
inductive Spelled : List Text → Text → Prop where
  | one (w : Text) : Spelled [w] w
  | more {ws : List Text} {gap t : Text} (w : Text) (hne : gap ≠ [])
      (hgap : ∀ c ∈ gap, isBlank c = true) (rest : Spelled ws t) : Spelled (w :: ws) (w ++ gap ++ t)

namespace Spelled

variable {ws : List Text} {t : Text} {p : Char → Bool}

/-- A spelling begins with a character of a word. -/
theorem exists_head (h : Spelled ws t) (hws : ∀ w ∈ ws, w ≠ [] ∧ ∀ c ∈ w, p c = true) :
    ∃ c, t.head? = some c ∧ p c = true := by
  cases h with
  | one =>
    obtain ⟨hne, hchars⟩ := hws t (by simp)
    obtain ⟨c, rest, rfl⟩ := List.exists_cons_of_ne_nil hne
    exact ⟨c, rfl, hchars c (by simp)⟩
  | more w =>
    obtain ⟨hne, hchars⟩ := hws w (by simp)
    obtain ⟨c, w, rfl⟩ := List.exists_cons_of_ne_nil hne
    exact ⟨c, rfl, hchars c (by simp)⟩

/-- A spelling ends with a character of a word. -/
theorem exists_last (h : Spelled ws t) (hws : ∀ w ∈ ws, w ≠ [] ∧ ∀ c ∈ w, p c = true) :
    ∃ c, t.getLast? = some c ∧ p c = true := by
  induction h with
  | one w =>
    obtain ⟨hne, hchars⟩ := hws w (by simp)
    exact ⟨w.getLast hne, List.getLast?_eq_some_getLast hne, hchars _ (List.getLast_mem hne)⟩
  | more w _ _ _ ih =>
    obtain ⟨c, hc, hp⟩ := ih fun v hv => hws v (List.mem_cons_of_mem _ hv)
    exact ⟨c, by rw [List.getLast?_append, hc, Option.some_or], hp⟩

theorem mem (h : Spelled ws t) {c : Char} (hc : c ∈ t) :
    isBlank c = true ∨ ∃ w ∈ ws, c ∈ w := by
  induction h with
  | one w => exact .inr ⟨w, by simp, hc⟩
  | more w _ hgap _ ih =>
    rcases List.mem_append.mp hc with hc | hc
    · rcases List.mem_append.mp hc with hc | hc
      · exact .inr ⟨w, by simp, hc⟩
      · exact .inl (hgap c hc)
    · rcases ih hc with hblank | ⟨v, hv, hcv⟩
      · exact .inl hblank
      · exact .inr ⟨v, List.mem_cons_of_mem _ hv, hcv⟩

/-- A map that keeps blanks may break words, but joins none. -/
theorem words_map (h : Spelled ws t) {f : Char → Char}
    (hf : ∀ c, isBlank c = true → isBlank (f c) = true) :
    words (t.map f) = ws.flatMap fun w => words (w.map f) := by
  induction h with
  | one w => rw [List.flatMap_singleton]
  | @more ws gap t w hne hgap _ ih =>
    obtain ⟨g, gap, rfl⟩ := List.exists_cons_of_ne_nil hne
    have hback : ∀ c ∈ gap.map f, isBlank c = true := by
      intro c hc
      obtain ⟨d, hd, rfl⟩ := List.mem_map.mp hc
      exact hf d (hgap d (List.mem_cons_of_mem _ hd))
    rw [List.append_assoc, List.map_append, List.cons_append, List.map_cons,
      words_append_break _ (hf g (hgap g (by simp))), List.map_append, words_blanks_append hback, ih,
      List.flatMap_cons]

section Words

variable (hws : ∀ w ∈ ws, w ≠ [] ∧ ∀ c ∈ w, isBlank c = false)

include hws

theorem startsBlank_eq (h : Spelled ws t) : startsBlank t = false := by
  obtain ⟨c, hhead, hc⟩ := h.exists_head (p := fun c => !isBlank c) (by simpa using hws)
  obtain ⟨rest, rfl⟩ := List.head?_eq_some_iff.mp hhead
  simpa [startsBlank] using hc

theorem endsBlank_eq (h : Spelled ws t) : endsBlank t = false := by
  obtain ⟨c, hlast, hc⟩ := h.exists_last (p := fun c => !isBlank c) (by simpa using hws)
  rw [endsBlank, hlast]
  simpa using hc

/-- **Single spacing forgets the spelling.** -/
theorem squeeze_eq (h : Spelled ws t) : squeeze t = joinWords ws := by
  induction h with
  | one w => rw [joinWords_singleton, squeeze_eq_self (hws w (by simp)).2]
  | @more ws gap t w hne hgap rest ih =>
    have hrest : ∀ v ∈ ws, v ≠ [] ∧ ∀ c ∈ v, isBlank c = false :=
      fun v hv => hws v (List.mem_cons_of_mem _ hv)
    have hend : endsBlank w = false := endsBlank_word (hws w (by simp)).2
    have hne' : ws ≠ [] := by
      rintro rfl
      cases rest
    rw [List.append_assoc, squeeze_append hend, squeeze_eq_self (hws w (by simp)).2,
      squeeze_blanks_append hne hgap (rest.startsBlank_eq hrest), ih hrest,
      joinWords_cons w hne', List.append_assoc, List.singleton_append]

/-- The words of a spelling are those that it spells. -/
theorem words_eq (h : Spelled ws t) : words t = ws := by
  induction h with
  | one w =>
    obtain ⟨hne, hchars⟩ := hws w (by simp)
    exact words_word hne hchars
  | @more ws gap t w hne hgap rest ih =>
    obtain ⟨hw, hchars⟩ := hws w (by simp)
    have hstart : ((gap ++ t).isEmpty || startsBlank (gap ++ t)) = true := by
      obtain ⟨c, gap, rfl⟩ := List.exists_cons_of_ne_nil hne
      exact hgap c (by simp)
    rw [List.append_assoc, words_word_append hw hchars hstart, words_blanks_append hgap,
      ih fun v hv => hws v (List.mem_cons_of_mem _ hv)]

end Words

end Spelled

/-- Words with single spaces between them are a spelling. -/
theorem spelled_joinWords {ws : List Text} (h : ws ≠ []) : Spelled ws (joinWords ws) := by
  induction ws with
  | nil => exact absurd rfl h
  | cons w ws ih =>
    by_cases hws : ws = []
    · rw [hws, joinWords_singleton]
      exact .one w
    · rw [joinWords_cons w hws]
      exact .more w (by simp) (by simp [isBlank_space]) (ih hws)

/-! ## Every text as a spelling -/

/-- A text starts with a word, and a run of blanks separates that word from the rest. -/
theorem exists_word_append {text : Text} (hne : text ≠ []) (hstart : startsBlank text = false) :
    ∃ w rest, text = w ++ rest ∧ w ≠ [] ∧ (∀ c ∈ w, isBlank c = false) ∧
      (rest.isEmpty || startsBlank rest) = true := by
  refine ⟨text.takeWhile fun c => !isBlank c, text.dropWhile fun c => !isBlank c,
    List.takeWhile_append_dropWhile.symm, ?_, ?_, ?_⟩
  · obtain ⟨c, rest, rfl⟩ := List.exists_cons_of_ne_nil hne
    have hc : isBlank c = false := hstart
    simp [hc]
  · intro c hc
    simpa using List.mem_takeWhile_imp hc
  · cases hrest : text.dropWhile fun c => !isBlank c with
    | nil => rfl
    | cons c rest =>
      have hc := List.head?_dropWhile_not (fun c => !isBlank c) text
      rw [hrest] at hc
      simpa [startsBlank] using hc

/-- A text without blanks at its ends is a spelling of its words. -/
theorem spelled_words {text : Text} (hne : text ≠ []) (hstart : startsBlank text = false)
    (hend : endsBlank text = false) : Spelled (words text) text := by
  obtain ⟨w, rest, rfl, hword, hchars, hrest⟩ := exists_word_append hne hstart
  rw [words_word_append hword hchars hrest]
  by_cases hnil : rest = []
  · subst hnil
    rw [List.append_nil]
    exact .one w
  · -- behind the blanks there is a text with the same last character
    have hgap : ∀ c ∈ rest.takeWhile isBlank, isBlank c = true := by
      intro c hc
      exact List.mem_takeWhile_imp hc
    have hgap_ne : rest.takeWhile isBlank ≠ [] := by
      obtain ⟨c, rest, rfl⟩ := List.exists_cons_of_ne_nil hnil
      have hc : isBlank c = true := hrest
      simp [hc]
    rw [endsBlank_append w hnil] at hend
    have hlater : rest.dropWhile isBlank ≠ [] := by
      intro hall
      rw [List.dropWhile_eq_nil_iff] at hall
      rw [endsBlank_blanks hnil hall] at hend
      exact Bool.false_ne_true hend.symm
    have hsplit := List.takeWhile_append_dropWhile (p := isBlank) (l := rest)
    have hshorter : (rest.dropWhile isBlank).length < (w ++ rest).length := by
      have := List.length_pos_of_ne_nil hword
      have := (List.dropWhile_suffix (p := isBlank) (l := rest)).length_le
      rw [List.length_append]
      omega
    rw [← hsplit, endsBlank_append _ hlater] at hend
    have ih := spelled_words hlater (startsBlank_dropWhile rest) hend
    rw [← hsplit, words_blanks_append hgap, ← List.append_assoc]
    exact .more w hgap_ne hgap ih
termination_by text.length

/-- **Single spacing is joining the words.** -/
theorem collapse_eq_joinWords (text : Text) : collapse text = joinWords (words text) := by
  rw [collapse, ← words_trim]
  by_cases hnil : trim text = []
  · rw [hnil]
    rfl
  · exact (spelled_words hnil (startsBlank_trim text) (endsBlank_trim text)).squeeze_eq
      fun _ hw => mem_words hw

theorem words_joinWords {ws : List Text} (hws : ∀ w ∈ ws, w ≠ [] ∧ ∀ c ∈ w, isBlank c = false) :
    words (joinWords ws) = ws := by
  by_cases hnil : ws = []
  · rw [hnil]
    rfl
  · exact (spelled_joinWords hnil).words_eq hws

theorem words_collapse (text : Text) : words (collapse text) = words text := by
  rw [collapse_eq_joinWords, words_joinWords fun _ hw => mem_words hw]

theorem collapse_collapse (text : Text) : collapse (collapse text) = collapse text := by
  rw [collapse_eq_joinWords (collapse text), words_collapse, ← collapse_eq_joinWords]

end TypeLens
