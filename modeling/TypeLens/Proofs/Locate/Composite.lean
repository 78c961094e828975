/-
# TypeLens.Proofs.Locate.Composite -- where a composite expression ends

A composite expression is read by listing all ways to read it in order of preference and taking the
first that ends at a word boundary. This module replaces the list by a recursion on the text
(`compositeEnd_eq`): behind a vocabulary word either the word goes on, and so must the expression,
or the word ends; then the expression goes on behind the blanks if it can, and else takes the blanks
and stars that follow, provided that a word comes directly behind them (`compositeTail`).

The vocabulary is not free of words that begin other words (`int` begins `int8_t`), but what is left
of the longer word never begins a vocabulary word. So a text can be read in at most one way, and an
expression can be read exactly where the first word is a concatenation of vocabulary words
(`compositeEnd_isSome_iff`).
-/
import Mathlib.Data.List.Basic
import Mathlib.Data.List.Find
import TypeLens.Locate

namespace TypeLens

/-! ## The vocabulary -/

theorem vocabulary_ne_nil {k : Text} (h : k ∈ vocabulary) : k ≠ [] := by
  have hall : ∀ k ∈ vocabulary, k ≠ [] := by decide +kernel
  exact hall k h

theorem isWordChar_of_mem_vocabulary {k : Text} (h : k ∈ vocabulary) :
    ∀ c ∈ k, isWordChar c = true := by
  have hall : ∀ k ∈ vocabulary, k.all isWordChar = true := by decide +kernel
  exact List.all_eq_true.mp (hall k h)

/-- When one vocabulary word begins another, what is left of the longer one neither begins a
vocabulary word nor begins with one. -/
theorem vocabulary_leftover {k rest : Text} (hk : k ∈ vocabulary) (hlong : k ++ rest ∈ vocabulary)
    (hne : rest ≠ []) {w : Text} (hw : w ∈ vocabulary) : ¬ w <+: rest ∧ ¬ rest <+: w := by
  have hall : ∀ k ∈ vocabulary, ∀ k' ∈ vocabulary,
      (k.isPrefixOf? k').all (fun rest => rest.isEmpty || vocabulary.all fun w =>
        !w.isPrefixOf rest && !rest.isPrefixOf w) = true := by decide +kernel
  have hpair := hall k hk (k ++ rest) hlong
  rw [List.isPrefixOf?_eq_some_iff_append_eq.mpr rfl, Option.all_some, Bool.or_eq_true,
    List.isEmpty_iff] at hpair
  rcases hpair with hnil | hpair
  · exact absurd hnil hne
  · have := List.all_eq_true.mp hpair w hw
    simpa [← List.isPrefixOf_iff_prefix] using this

/-! ## Fronts of texts -/

/-- Of two fronts of one text, the shorter one is a front of the longer one. -/
theorem exists_append_of_append_eq {a b x y : Text} (h : a ++ x = b ++ y)
    (hlen : a.length ≤ b.length) : ∃ rest, b = a ++ rest ∧ x = rest ++ y := by
  obtain ⟨rest, rfl⟩ := List.prefix_of_prefix_length_le (List.prefix_append a x)
    (h ▸ List.prefix_append b y) hlen
  rw [List.append_assoc] at h
  exact ⟨rest, rfl, List.append_cancel_left h⟩

theorem runLength_le (p : Char → Bool) (text : Text) : runLength p text ≤ text.length :=
  (List.takeWhile_prefix p).length_le

theorem runLength_add_length (p : Char → Bool) (text : Text) :
    runLength p text + (text.dropWhile p).length = text.length := by
  have h := congrArg List.length (List.takeWhile_append_dropWhile (p := p) (l := text))
  rwa [List.length_append] at h

/-- A run before a text that does not go on with it. -/
theorem run_append {p : Char → Bool} {x y : Text} (hx : ∀ c ∈ x, p c = true)
    (hy : y.dropWhile p = y) : (x ++ y).dropWhile p = y ∧ runLength p (x ++ y) = x.length := by
  have hdrop : (x ++ y).dropWhile p = y := by rw [List.dropWhile_append_of_pos hx, hy]
  have hlength := runLength_add_length p (x ++ y)
  rw [hdrop, List.length_append, Nat.add_right_cancel_iff] at hlength
  exact ⟨hdrop, hlength⟩

theorem drop_runLength (p : Char → Bool) (text : Text) :
    text.drop (runLength p text) = text.dropWhile p := by
  have h := List.takeWhile_append_dropWhile (p := p) (l := text)
  calc text.drop (runLength p text)
      = (text.takeWhile p ++ text.dropWhile p).drop (text.takeWhile p).length := by
        rw [h, runLength]
    _ = text.dropWhile p := List.drop_left

theorem takeWhile_eq_nil_of_head {text : Text} (h : inWord text.head? = false) :
    text.takeWhile isWordChar = [] := by
  cases text with
  | nil => rfl
  | cons c rest => exact List.takeWhile_cons_of_neg (by simpa [inWord] using h)

theorem takeWhile_ne_nil_of_head {text : Text} (h : inWord text.head? = true) :
    text.takeWhile isWordChar ≠ [] := by
  cases text with
  | nil => exact absurd h Bool.false_ne_true
  | cons c rest =>
    rw [List.takeWhile_cons_of_pos (show isWordChar c = true from h)]
    exact List.cons_ne_nil c _

/-- A word before something else is taken whole. -/
theorem takeWhile_word_append {w rest : Text} (hw : ∀ c ∈ w, isWordChar c = true)
    (hrest : inWord rest.head? = false) : (w ++ rest).takeWhile isWordChar = w := by
  rw [List.takeWhile_append_of_pos hw, takeWhile_eq_nil_of_head hrest, List.append_nil]

theorem inWord_head_dropWhile (text : Text) :
    inWord (text.dropWhile isWordChar).head? = false := by
  have hnot := List.head?_dropWhile_not isWordChar text
  cases hhead : (text.dropWhile isWordChar).head? with
  | none => rfl
  | some c => simpa [hhead, inWord] using hnot

/-- What stands in front of a position inside a run satisfies the test of the run. -/
theorem getElem?_of_lt_runLength {p : Char → Bool} (text : Text) (i : Nat)
    (h : i < runLength p text) : ∃ c, text[i]? = some c ∧ p c = true := by
  induction text generalizing i with
  | nil => simp [runLength] at h
  | cons c rest ih =>
    by_cases hc : p c = true
    · cases i with
      | zero => exact ⟨c, rfl, hc⟩
      | succ j =>
        refine ih j ?_
        rw [runLength, List.takeWhile_cons_of_pos hc, List.length_cons] at h
        exact Nat.lt_of_succ_lt_succ h
    · simp [runLength, List.takeWhile_cons_of_neg hc] at h

/-! ## The list of readings -/

/-- The widths of `n` characters with stars behind them, more stars first. -/
def starWidths (text : Text) (n : Nat) : List Nat :=
  (downFrom (runLength (· == '*') (text.drop n))).map (n + ·)

theorem starWidths_add (text : Text) (n m : Nat) :
    starWidths text (n + m) = (starWidths (text.drop n) m).map (n + ·) := by
  simp only [starWidths, List.drop_drop, List.map_map, Function.comp_def, Nat.add_assoc]

theorem mem_keywordWidths {text : Text} {n : Nat} :
    n ∈ keywordWidths text ↔ ∃ k ∈ vocabulary, ∃ rest, text = k ++ rest ∧ k.length = n := by
  simp only [keywordWidths, List.mem_filterMap, Option.map_eq_some_iff,
    List.isPrefixOf?_eq_some_iff_append_eq, eq_comm (a := text)]

theorem specifierWidths_bounds {text : Text} {n : Nat} (h : n ∈ specifierWidths text) :
    0 < n ∧ n ≤ text.length := by
  simp only [specifierWidths, List.mem_flatMap, List.mem_map, mem_keywordWidths] at h
  obtain ⟨_, ⟨k, hk, rest, rfl, rfl⟩, j, hj, rfl⟩ := h
  have hpos := List.length_pos_of_ne_nil (vocabulary_ne_nil hk)
  have hrun := runLength_le isBlank rest
  rw [mem_downFrom, List.drop_left] at hj
  rw [List.length_append]
  omega

/-- The guard that makes the recursion end is never in the way. -/
theorem runWidths_eq (text : Text) :
    runWidths text = (specifierWidths text).flatMap fun n =>
      (runWidths (text.drop n)).map (n + ·) ++ [n] := by
  rw [runWidths]
  apply List.flatMap_congr
  intro n hn
  rw [dif_pos (specifierWidths_bounds hn)]

/-- A composite expression is one specifier and then another composite expression, or one specifier
and stars. -/
theorem compositeWidths_step (text : Text) :
    compositeWidths text = (specifierWidths text).flatMap fun n =>
      (compositeWidths (text.drop n)).map (n + ·) ++ starWidths text n := by
  have hdef : ∀ t, compositeWidths t = (runWidths t).flatMap (starWidths t) := fun _ => rfl
  rw [hdef, runWidths_eq, List.flatMap_assoc]
  apply List.flatMap_congr
  intro n _
  rw [List.flatMap_append, List.flatMap_singleton, List.flatMap_map, hdef, List.map_flatMap]
  congr 2
  funext m
  exact starWidths_add text n m

theorem compositeWidths_pos {text : Text} {n : Nat} (h : n ∈ compositeWidths text) : 0 < n := by
  rw [compositeWidths_step, List.mem_flatMap] at h
  obtain ⟨k, hk, hn⟩ := h
  have hpos := (specifierWidths_bounds hk).1
  rcases List.mem_append.mp hn with hn | hn
  · obtain ⟨m, -, rfl⟩ := List.mem_map.mp hn
    omega
  · obtain ⟨m, -, rfl⟩ := List.mem_map.mp hn
    omega

/-- The widths of what can follow a vocabulary word: blanks and another composite expression, or
blanks and stars. -/
def tailWidths (rest : Text) : List Nat :=
  (downFrom (runLength isBlank rest)).flatMap fun j =>
    (compositeWidths (rest.drop j)).map (j + ·) ++ starWidths rest j

theorem compositeWidths_eq (text : Text) :
    compositeWidths text = vocabulary.flatMap fun k =>
      (k.isPrefixOf? text).toList.flatMap fun rest => (tailWidths rest).map (k.length + ·) := by
  rw [compositeWidths_step, specifierWidths, keywordWidths, List.filterMap_eq_flatMap_toList,
    List.flatMap_assoc, List.flatMap_assoc]
  apply List.flatMap_congr
  intro k _
  cases hdrop : k.isPrefixOf? text with
  | none => rfl
  | some rest =>
    obtain rfl := List.append_eq_of_isPrefixOf?_eq_some hdrop
    simp only [Option.map_some, Option.toList_some, List.flatMap_singleton, List.drop_left,
      tailWidths, List.map_flatMap, List.flatMap_map]
    apply List.flatMap_congr
    intro j _
    rw [List.map_append, List.map_map, starWidths_add, ← List.drop_drop, List.drop_left]
    congr 2
    funext m
    exact Nat.add_assoc _ _ _

/-! ## The first reading that ends at a boundary -/

/-- The width of the composite expression at the front, if there is one. -/
def compositeEnd (text : Text) : Option Nat :=
  (compositeWidths text).find? (boundaryBehind text)

theorem readComposite_eq (before : Option Char) (text : Text) :
    readComposite before text =
      if isBoundary before text.head? then (compositeEnd text).map fun n => ⟨(), n⟩ else none := rfl

/-- The width of the blanks and stars at the front when a word comes directly behind them, else
zero. -/
def compositeTail (rest : Text) : Nat :=
  let behind := rest.dropWhile isBlank
  if inWord (behind.dropWhile (· == '*')).head? then
    runLength isBlank rest + runLength (· == '*') behind
  else 0

/-- How far a composite expression goes behind a vocabulary word. -/
def endBehind (rest : Text) : Option Nat :=
  if inWord rest.head? then compositeEnd rest
  else ((compositeEnd (rest.dropWhile isBlank)).map (runLength isBlank rest + ·)).or
    (some (compositeTail rest))

/-- Whether a word boundary lies behind the first `n` characters of a text that follows a word
character. -/
def edgeBehind (rest : Text) (n : Nat) : Bool :=
  if n = 0 then !inWord rest.head? else boundaryBehind rest n

theorem boundaryBehind_add (text : Text) (n : Nat) {m : Nat} (hm : 0 < m) :
    boundaryBehind text (n + m) = boundaryBehind (text.drop n) m := by
  rw [boundaryBehind, boundaryBehind, List.getElem?_drop, List.getElem?_drop,
    Nat.add_sub_assoc hm]

theorem edgeBehind_add (rest : Text) (n : Nat) {m : Nat} (hm : 0 < m) :
    edgeBehind rest (n + m) = boundaryBehind (rest.drop n) m := by
  rw [edgeBehind, if_neg (by omega), boundaryBehind_add rest n hm]

/-- Behind a vocabulary word, boundaries are seen from a word character. -/
theorem boundaryBehind_append {k : Text} (hk : k ∈ vocabulary) (rest : Text) (n : Nat) :
    boundaryBehind (k ++ rest) (k.length + n) = edgeBehind rest n := by
  by_cases hn : n = 0
  · subst hn
    have hpos := List.length_pos_of_ne_nil (vocabulary_ne_nil hk)
    have hlast : inWord (k ++ rest)[k.length - 1]? = true := by
      rw [List.getElem?_append_left (by omega), List.getElem?_eq_getElem (by omega)]
      exact isWordChar_of_mem_vocabulary hk _ (List.getElem_mem _)
    rw [boundaryBehind, Nat.add_zero, isBoundary, hlast, List.getElem?_append_right (Nat.le_refl _),
      Nat.sub_self, ← List.head?_eq_getElem?, edgeBehind, if_pos rfl, Bool.true_bne]
  · rw [boundaryBehind_add _ _ (by omega), List.drop_left, edgeBehind, if_neg hn]

/-- A search downwards that finds nothing above zero ends at zero. -/
theorem findSome?_downFrom {β : Type} {f : Nat → Option β} {m : Nat}
    (h : ∀ s, 0 < s → s ≤ m → f s = none) : (downFrom m).findSome? f = f 0 := by
  induction m with
  | zero =>
    rw [downFrom, List.findSome?_cons]
    cases f 0 <;> rfl
  | succ m ih =>
    rw [downFrom, List.findSome?_cons, h (m + 1) (by omega) (Nat.le_refl _)]
    exact ih fun s hpos hle => h s hpos (by omega)

theorem findSome?_congr {β γ : Type} {f g : β → Option γ} {l : List β}
    (h : ∀ x ∈ l, f x = g x) : l.findSome? f = l.findSome? g := by
  induction l with
  | nil => rfl
  | cons x rest ih =>
    rw [List.findSome?_cons, List.findSome?_cons, h x (by simp),
      ih fun y hy => h y (List.mem_cons_of_mem _ hy)]

theorem downFrom_of_pos {n : Nat} (h : 0 < n) : downFrom n = n :: downFrom (n - 1) := by
  cases n with
  | zero => omega
  | succ n => rfl

/-- No vocabulary word begins where no word character stands. -/
theorem compositeEnd_eq_none_of_head {text : Text} (h : inWord text.head? = false) :
    compositeEnd text = none := by
  rw [compositeEnd, compositeWidths_eq, List.find?_eq_none]
  intro n hn
  obtain ⟨k, hk, hn⟩ := List.mem_flatMap.mp hn
  obtain ⟨rest, hrest, -⟩ := List.mem_flatMap.mp hn
  obtain rfl := List.append_eq_of_isPrefixOf?_eq_some (Option.mem_toList.mp hrest)
  obtain ⟨c, k', rfl⟩ := List.exists_cons_of_ne_nil (vocabulary_ne_nil hk)
  have hc := isWordChar_of_mem_vocabulary hk c (by simp)
  simp [inWord, hc] at h

theorem inWord_head_of_compositeEnd {text : Text} {n : Nat} (h : compositeEnd text = some n) :
    inWord text.head? = true := by
  by_contra hno
  have hhead : inWord text.head? = false := by simpa using hno
  simp [compositeEnd_eq_none_of_head hhead] at h

/-- A composite expression is read where no word goes on from before. -/
theorem readComposite_eq_some {before : Option Char} {text : Text} {found : Found Unit}
    (h : readComposite before text = some found) :
    inWord before = false ∧ compositeEnd text = some found.width := by
  rw [readComposite_eq] at h
  split at h
  · rename_i hboundary
    obtain ⟨n, hn, rfl⟩ := Option.map_eq_some_iff.mp h
    rw [isBoundary, inWord_head_of_compositeEnd hn] at hboundary
    exact ⟨by simpa using hboundary, hn⟩
  · simp at h

/-! ## Blanks and stars behind a word -/

section BehindWord

variable {rest : Text}

theorem inWord_of_blank {c : Char} (h : isBlank c = true) : inWord (some c) = false :=
  isWordChar_of_isBlank h

theorem inWord_of_star {c : Char} (h : (c == '*') = true) : inWord (some c) = false := by
  rw [beq_iff_eq.mp h]
  exact isWordChar_star

/-- The readings with `j` blanks behind the word: another composite expression before stars. -/
theorem find?_tail_step (j : Nat) :
    ((compositeWidths (rest.drop j)).map (j + ·) ++ starWidths rest j).find? (edgeBehind rest) =
      ((compositeEnd (rest.drop j)).map (j + ·)).or
        ((starWidths rest j).find? (edgeBehind rest)) := by
  rw [List.find?_append, List.find?_map, compositeEnd]
  congr 2
  apply List.find?_congr
  intro m hm
  exact edgeBehind_add rest j (compositeWidths_pos hm)

/-- Inside the blanks no reading ends, except directly behind the word. -/
theorem find?_inside_blanks {j : Nat} (hj : j < runLength isBlank rest) :
    ((compositeWidths (rest.drop j)).map (j + ·) ++ starWidths rest j).find? (edgeBehind rest) =
      if j = 0 then some 0 else none := by
  obtain ⟨c, hc, hblank⟩ := getElem?_of_lt_runLength rest j hj
  have hhead : (rest.drop j).head? = some c := by rw [List.head?_drop, hc]
  have hnoStar : runLength (· == '*') (rest.drop j) = 0 := by
    obtain ⟨tail, htail⟩ := List.head?_eq_some_iff.mp hhead
    have hne : ¬ (c == '*') = true := by
      intro hstar
      rw [beq_iff_eq.mp hstar] at hblank
      exact absurd hblank (by decide)
    rw [runLength, htail, List.takeWhile_cons, if_neg hne, List.length_nil]
  have hnone : compositeEnd (rest.drop j) = none :=
    compositeEnd_eq_none_of_head (by rw [hhead]; exact inWord_of_blank hblank)
  rw [find?_tail_step, hnone, Option.map_none, Option.none_or, starWidths, hnoStar]
  by_cases hzero : j = 0
  · subst hzero
    rw [List.drop_zero] at hhead
    simp [downFrom, edgeBehind, hhead, inWord_of_blank hblank]
  · -- the characters on both sides are blanks
    obtain ⟨b, hb, hblank'⟩ := getElem?_of_lt_runLength (p := isBlank) rest (j - 1)
      (by omega)
    simp [downFrom, edgeBehind, hzero, boundaryBehind, isBoundary, hb, hc, inWord_of_blank hblank,
      inWord_of_blank hblank']

/-- Behind all blanks, stars count when a word comes directly behind them; without them the reading
ends where there is a boundary. -/
theorem find?_stars (hword : inWord rest.head? = false) :
    (starWidths rest (runLength isBlank rest)).find? (edgeBehind rest) =
      if inWord ((rest.dropWhile isBlank).dropWhile (· == '*')).head? then
        some (runLength isBlank rest + runLength (· == '*') (rest.dropWhile isBlank))
      else if runLength isBlank rest = 0 then some 0 else none := by
  have hdrop := drop_runLength isBlank rest
  have hstars := drop_runLength (· == '*') (rest.dropWhile isBlank)
  generalize hn : runLength isBlank rest = n at hdrop
  generalize hbehind : rest.dropWhile isBlank = behind at hdrop hstars
  generalize hs : runLength (· == '*') behind = s at hstars
  -- the boundary behind a positive number of stars
  have hedge : ∀ i, 0 < i → i ≤ s → edgeBehind rest (n + i) = inWord behind[i]? := by
    intro i hpos hle
    obtain ⟨c, hc, hstar⟩ := getElem?_of_lt_runLength (p := (· == '*')) behind (i - 1) (by omega)
    rw [edgeBehind_add rest n hpos, hdrop, boundaryBehind, isBoundary, hc, inWord_of_star hstar,
      Bool.false_bne]
  have hinner : ∀ i, 0 < i → i < s → edgeBehind rest (n + i) = false := by
    intro i hpos hlt
    obtain ⟨c, hc, hstar⟩ := getElem?_of_lt_runLength (p := (· == '*')) behind i (by omega)
    rw [hedge i hpos (by omega), hc, inWord_of_star hstar]
  have hlast : inWord behind[s]? = inWord (behind.dropWhile (· == '*')).head? := by
    rw [← hstars, List.head?_drop]
  -- the boundary directly behind the blanks
  have hblanks : edgeBehind rest n = if n = 0 then true else inWord behind.head? := by
    by_cases hzero : n = 0
    · rw [if_pos hzero, hzero, edgeBehind, if_pos rfl, hword]
      rfl
    · obtain ⟨b, hb, hblank⟩ := getElem?_of_lt_runLength (p := isBlank) rest (n - 1) (by omega)
      rw [if_neg hzero, edgeBehind, if_neg hzero, boundaryBehind, isBoundary, hb,
        inWord_of_blank hblank, Bool.false_bne, ← hdrop, List.head?_drop]
  rw [starWidths, hdrop, hs, List.find?_map]
  by_cases hzero : s = 0
  · have hhead : behind[s]? = behind.head? := by rw [hzero, List.head?_eq_getElem?]
    rw [← hlast, hhead, hzero]
    by_cases hn0 : n = 0
    · rw [hn0, if_pos rfl] at hblanks
      simp [downFrom, hblanks, hn0]
    · cases hin : inWord behind.head? <;> simp [downFrom, hblanks, hn0, hin]
  · rw [downFrom_of_pos (by omega), List.find?_cons, Function.comp_apply,
      hedge s (by omega) (Nat.le_refl _), hlast]
    cases hin : inWord (behind.dropWhile (· == '*')).head? with
    | true => rfl
    | false =>
      -- fewer stars end at no boundary, and no word begins with a star
      have hhead : inWord behind.head? = false := by
        obtain ⟨c, hc, hstar⟩ := getElem?_of_lt_runLength (p := (· == '*')) behind 0 (by omega)
        rw [List.head?_eq_getElem?, hc, inWord_of_star hstar]
      have hfew : (downFrom (s - 1)).find? (edgeBehind rest ∘ (n + ·)) =
          if edgeBehind rest n then some 0 else none := by
        rw [List.find?_eq_findSome?_guard, findSome?_downFrom]
        · rfl
        · intro i hpos hle
          simp [Option.guard, hinner i hpos (by omega)]
      simp only [hfew, hblanks, hhead]
      by_cases hn0 : n = 0
      · simp [hn0]
      · simp [hn0]

theorem find?_behind_blanks (hword : inWord rest.head? = false) :
    ((compositeWidths (rest.drop (runLength isBlank rest))).map (runLength isBlank rest + ·) ++
        starWidths rest (runLength isBlank rest)).find? (edgeBehind rest) =
      ((compositeEnd (rest.dropWhile isBlank)).map (runLength isBlank rest + ·)).or
        (if inWord ((rest.dropWhile isBlank).dropWhile (· == '*')).head? then
          some (runLength isBlank rest + runLength (· == '*') (rest.dropWhile isBlank))
        else if runLength isBlank rest = 0 then some 0 else none) := by
  rw [find?_tail_step, find?_stars hword, drop_runLength]

/-- **What follows a vocabulary word.** The first reading behind the word that ends at a
boundary. -/
theorem find?_tailWidths (rest : Text) :
    (tailWidths rest).find? (edgeBehind rest) = endBehind rest := by
  rw [tailWidths, List.find?_flatMap]
  cases hword : inWord rest.head? with
  | true =>
    -- the word goes on, so there are neither blanks nor stars
    obtain ⟨c, tail, rfl⟩ : ∃ c tail, rest = c :: tail := by
      cases rest with
      | nil => simp [inWord] at hword
      | cons c tail => exact ⟨c, tail, rfl⟩
    have hblank : isBlank c = false := by
      by_contra hb
      have := inWord_of_blank (by simpa using hb)
      simp [this] at hword
    have hstar : (c == '*') = false := by
      by_contra hs
      have := inWord_of_star (by simpa using hs)
      simp [this] at hword
    have hrun : runLength isBlank (c :: tail) = 0 := by simp [runLength, hblank]
    rw [hrun, endBehind, if_pos hword, downFrom, List.findSome?_cons, find?_tail_step,
      List.drop_zero]
    have hnone : (starWidths (c :: tail) 0).find? (edgeBehind (c :: tail)) = none := by
      rw [List.head?_cons] at hword
      simp [starWidths, runLength, hstar, downFrom, edgeBehind, hword]
    rw [hnone]
    cases compositeEnd (c :: tail) <;> simp
  | false =>
    rw [endBehind, if_neg (by simp [hword])]
    have hend := find?_behind_blanks hword
    by_cases hzero : runLength isBlank rest = 0
    · have hdown : downFrom (runLength isBlank rest) = [runLength isBlank rest] := by
        rw [hzero, downFrom]
      rw [hdown, List.findSome?_cons, hend, compositeTail]
      cases compositeEnd (rest.dropWhile isBlank) with
      | none =>
        cases inWord ((rest.dropWhile isBlank).dropWhile (· == '*')).head? <;> simp [hzero]
      | some m => simp
    · have hinside : (downFrom (runLength isBlank rest - 1)).findSome? (fun j =>
          ((compositeWidths (rest.drop j)).map (j + ·) ++ starWidths rest j).find?
            (edgeBehind rest)) = some 0 := by
        rw [findSome?_downFrom]
        · exact find?_inside_blanks (by omega)
        · intro j hpos hle
          rw [find?_inside_blanks (by omega), if_neg (by omega)]
      rw [downFrom_of_pos (by omega), List.findSome?_cons, hend, hinside, compositeTail]
      cases compositeEnd (rest.dropWhile isBlank) with
      | none =>
        cases inWord ((rest.dropWhile isBlank).dropWhile (· == '*')).head? <;> simp [hzero]
      | some m => simp

end BehindWord

/-! ## One word after another -/

/-- **The recursion.** A composite expression is a vocabulary word and what follows it. -/
theorem compositeEnd_eq (text : Text) :
    compositeEnd text = vocabulary.findSome? fun k =>
      (k.isPrefixOf? text).bind fun rest => (endBehind rest).map (k.length + ·) := by
  rw [compositeEnd, compositeWidths_eq, List.find?_flatMap]
  apply findSome?_congr
  intro k hk
  cases hdrop : k.isPrefixOf? text with
  | none => rfl
  | some rest =>
    obtain rfl := List.append_eq_of_isPrefixOf?_eq_some hdrop
    rw [Option.toList_some, List.flatMap_singleton, List.find?_map, Option.bind_some,
      ← find?_tailWidths]
    congr 2
    funext n
    exact boundaryBehind_append hk rest n

theorem compositeEnd_eq_some {text : Text} {n : Nat} (h : compositeEnd text = some n) :
    ∃ k ∈ vocabulary, ∃ rest m, text = k ++ rest ∧ endBehind rest = some m ∧ n = k.length + m := by
  rw [compositeEnd_eq] at h
  obtain ⟨k, hk, hsome⟩ := List.exists_of_findSome?_eq_some h
  obtain ⟨rest, hdrop, hmap⟩ := Option.bind_eq_some_iff.mp hsome
  obtain ⟨m, hm, rfl⟩ := Option.map_eq_some_iff.mp hmap
  exact ⟨k, hk, rest, m, (List.append_eq_of_isPrefixOf?_eq_some hdrop).symm, hm, rfl⟩

/-- Two readings of one text begin with the same word. -/
theorem keyword_unique_of_le {k k' rest rest' : Text} {m : Nat} (hk : k ∈ vocabulary)
    (hk' : k' ∈ vocabulary) (htext : k ++ rest = k' ++ rest') (hlen : k.length ≤ k'.length)
    (hrest : endBehind rest = some m) : k = k' := by
  obtain ⟨left, rfl, rfl⟩ := exists_append_of_append_eq htext hlen
  by_cases hnil : left = []
  · rw [hnil, List.append_nil]
  · -- the longer word goes on, so another vocabulary word would have to begin inside it
    exfalso
    have hword : inWord (left ++ rest').head? = true := by
      obtain ⟨c, tail, rfl⟩ := List.exists_cons_of_ne_nil hnil
      exact isWordChar_of_mem_vocabulary hk' c (by simp)
    rw [endBehind, if_pos hword] at hrest
    obtain ⟨w, hw, rest'', _, heq, -, -⟩ := compositeEnd_eq_some hrest
    -- that word and what is left of the longer one are fronts of one text
    obtain ⟨hnot, hnot'⟩ := vocabulary_leftover hk hk' hnil hw
    rcases Nat.le_total w.length left.length with hle | hle
    · obtain ⟨more, hleft, -⟩ := exists_append_of_append_eq heq.symm hle
      exact hnot ⟨more, hleft.symm⟩
    · obtain ⟨more, hw', -⟩ := exists_append_of_append_eq heq hle
      exact hnot' ⟨more, hw'.symm⟩

theorem compositeEnd_append {k rest : Text} {m : Nat} (hk : k ∈ vocabulary)
    (hm : endBehind rest = some m) : compositeEnd (k ++ rest) = some (k.length + m) := by
  -- the search finds something, and whatever it finds begins with the same word
  have hfound : ∃ n, compositeEnd (k ++ rest) = some n := by
    rw [← Option.isSome_iff_exists, compositeEnd_eq, List.findSome?_isSome_iff]
    exact ⟨k, hk, by simp [List.isPrefixOf?_eq_some_iff_append_eq.mpr rfl, hm]⟩
  obtain ⟨n, hn⟩ := hfound
  obtain ⟨k', hk', rest', m', htext, hm', rfl⟩ := compositeEnd_eq_some hn
  have hsame : k = k' := by
    rcases Nat.le_total k.length k'.length with hle | hle
    · exact keyword_unique_of_le hk hk' htext hle hm
    · exact (keyword_unique_of_le hk' hk htext.symm hle hm').symm
  subst hsame
  obtain rfl : rest = rest' := List.append_cancel_left htext
  rw [hm] at hm'
  rw [hn, Option.some.inj hm']

/-- A concatenation of one or more vocabulary words. -/
inductive KeywordRun : Text → Prop where
  | one {k : Text} (hk : k ∈ vocabulary) : KeywordRun k
  | more {k w : Text} (hk : k ∈ vocabulary) (hw : KeywordRun w) : KeywordRun (k ++ w)

theorem KeywordRun.ne_nil {w : Text} (h : KeywordRun w) : w ≠ [] := by
  cases h with
  | one hk => exact vocabulary_ne_nil hk
  | more hk _ => simp [vocabulary_ne_nil hk]

theorem KeywordRun.isWordChar {w : Text} (h : KeywordRun w) :
    ∀ c ∈ w, isWordChar c = true := by
  induction h with
  | one hk => exact isWordChar_of_mem_vocabulary hk
  | more hk _ ih =>
    intro c hc
    rcases List.mem_append.mp hc with hc | hc
    · exact isWordChar_of_mem_vocabulary hk c hc
    · exact ih c hc

theorem KeywordRun.inWord_head {w : Text} (h : KeywordRun w) (rest : Text) :
    inWord (w ++ rest).head? = true := by
  obtain ⟨c, tail, rfl⟩ := List.exists_cons_of_ne_nil h.ne_nil
  exact h.isWordChar c (by simp)

theorem endBehind_isSome {rest : Text} (h : inWord rest.head? = false) :
    ∃ m, endBehind rest = some m := by
  rw [endBehind, if_neg (by simp [h])]
  cases compositeEnd (rest.dropWhile isBlank) with
  | none => exact ⟨_, rfl⟩
  | some m => exact ⟨_, rfl⟩

/-- Behind the end of a word, either another expression follows the blanks or the tail is taken. -/
theorem endBehind_eq_some {rest : Text} {m : Nat} (hword : inWord rest.head? = false)
    (h : endBehind rest = some m) :
    m = compositeTail rest ∨
      ∃ j, compositeEnd (rest.dropWhile isBlank) = some j ∧ m = runLength isBlank rest + j := by
  rw [endBehind, if_neg (by simp [hword])] at h
  cases hnext : compositeEnd (rest.dropWhile isBlank) with
  | none =>
    rw [hnext, Option.map_none, Option.none_or] at h
    exact .inl (Option.some.inj h).symm
  | some j =>
    rw [hnext, Option.map_some, Option.some_or] at h
    exact .inr ⟨j, rfl, (Option.some.inj h).symm⟩

/-- Behind a word that is a run of vocabulary words, the expression goes on as behind its last
one. -/
theorem compositeEnd_run {w rest : Text} (hw : KeywordRun w) (hrest : inWord rest.head? = false) :
    compositeEnd (w ++ rest) = (endBehind rest).map (w.length + ·) := by
  obtain ⟨m, hm⟩ := endBehind_isSome hrest
  induction hw with
  | one hk => rw [compositeEnd_append hk hm, hm, Option.map_some]
  | @more k w hk hw ih =>
    -- behind the first word the run goes on without a boundary
    have hinner : endBehind (w ++ rest) = some (w.length + m) := by
      rw [endBehind, if_pos (hw.inWord_head rest), ih, hm, Option.map_some]
    rw [List.append_assoc, compositeEnd_append hk hinner, hm, Option.map_some, List.length_append,
      Nat.add_assoc]

/-- Where a composite expression can be read, the first word is a run of vocabulary words. -/
theorem keywordRun_of_compositeEnd {text : Text} {n : Nat} (h : compositeEnd text = some n) :
    KeywordRun (text.takeWhile isWordChar) := by
  obtain ⟨k, hk, rest, m, htext, hm, -⟩ := compositeEnd_eq_some h
  rw [htext, List.takeWhile_append_of_pos (isWordChar_of_mem_vocabulary hk)]
  cases hword : inWord rest.head? with
  | true =>
    rw [endBehind, if_pos hword] at hm
    exact .more hk (keywordRun_of_compositeEnd hm)
  | false =>
    rw [takeWhile_eq_nil_of_head hword, List.append_nil]
    exact .one hk
termination_by text.length
decreasing_by
  have := List.length_pos_of_ne_nil (vocabulary_ne_nil hk)
  rw [htext, List.length_append]
  omega

/-- A composite expression is a word that is a run of vocabulary words, and what follows it. -/
theorem exists_endBehind_of_compositeEnd {text : Text} {n : Nat} (h : compositeEnd text = some n) :
    ∃ m, endBehind (text.dropWhile isWordChar) = some m ∧ n = runLength isWordChar text + m := by
  have hrun := compositeEnd_run (keywordRun_of_compositeEnd h) (inWord_head_dropWhile text)
  rw [List.takeWhile_append_dropWhile, h] at hrun
  obtain ⟨m, hm, hn⟩ := Option.map_eq_some_iff.mp hrun.symm
  exact ⟨m, hm, hn.symm⟩

/-- A composite expression can be read exactly where the first word is a run of vocabulary
words. -/
theorem compositeEnd_isSome_iff (text : Text) :
    (compositeEnd text).isSome ↔ KeywordRun (text.takeWhile isWordChar) := by
  constructor
  · intro h
    obtain ⟨n, hn⟩ := Option.isSome_iff_exists.mp h
    exact keywordRun_of_compositeEnd hn
  · intro h
    have hend := inWord_head_dropWhile text
    obtain ⟨m, hm⟩ := endBehind_isSome hend
    have hrun := compositeEnd_run h hend
    rw [List.takeWhile_append_dropWhile, hm] at hrun
    simp [hrun]

/-! ## Bounds -/

theorem compositeTail_le (rest : Text) : compositeTail rest ≤ rest.length := by
  have hblanks := runLength_add_length isBlank rest
  have hstars := runLength_le (· == '*') (rest.dropWhile isBlank)
  rw [compositeTail]
  split
  · omega
  · exact Nat.zero_le _

theorem compositeEnd_bounds {text : Text} {n : Nat} (h : compositeEnd text = some n) :
    0 < n ∧ n ≤ text.length := by
  obtain ⟨k, hk, rest, m, htext, hm, rfl⟩ := compositeEnd_eq_some h
  have hpos := List.length_pos_of_ne_nil (vocabulary_ne_nil hk)
  have hlength : text.length = k.length + rest.length := by rw [htext, List.length_append]
  suffices m ≤ rest.length by omega
  cases hword : inWord rest.head? with
  | true =>
    rw [endBehind, if_pos hword] at hm
    exact (compositeEnd_bounds hm).2
  | false =>
    rcases endBehind_eq_some hword hm with rfl | ⟨j, hj, rfl⟩
    · exact compositeTail_le rest
    · have hblanks := runLength_add_length isBlank rest
      have := (compositeEnd_bounds hj).2
      omega
termination_by text.length

end TypeLens
