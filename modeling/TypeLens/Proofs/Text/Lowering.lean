/-
# TypeLens.Proofs.Text.Lowering -- lower-casing and words

What lower-casing gives for a character is in lower case already, and it is a blank only where the
character was one (`lowerChar_cases`). Both are facts about the table of case forms, read off its
rows: no row leads into a row of the table or into a blank.

A text is not lowered character by character, since a capital sigma looks at its neighbours. Up to the
form of sigma it is, though (`map_middleSigma_lowerFrom`), and that is enough wherever a text is
compared with one that has no sigma. And it is lowered word by word (`wordWise_lower`): a blank has
no case and is not transparent to it, so no sigma looks beyond the blanks around its word. Whatever
acts word by word commutes with taking the words of a text and with joining words.
-/
import TypeLens.Proofs.Text.Spacing
import TypeLens.Text.LowerCase

namespace TypeLens

/-! ## Rows of the table -/

namespace CaseRow

variable {r s : CaseRow} {n m : Nat} {shift : Int}

/-- The row holds the code point. -/
def Holds (r : CaseRow) (n : Nat) : Prop :=
  r.first ≤ n ∧ n ≤ r.last ∧ (n - r.first) % r.stride = 0

theorem exists_of_shift? {rows : List CaseRow} (h : shift? rows n = some shift) :
    ∃ r ∈ rows, r.Holds n ∧ r.shift = shift := by
  induction rows with
  | nil => simp [shift?] at h
  | cons r rows ih =>
    rw [shift?] at h
    split at h
    · exact absurd h (by simp)
    · rename_i hlow
      split at h
      · rename_i hhigh
        split at h
        · rename_i hstride
          exact ⟨r, by simp, ⟨by omega, hhigh, hstride⟩, Option.some.inj h⟩
        · exact absurd h (by simp)
      · obtain ⟨r, hr, hholds⟩ := ih h
        exact ⟨r, List.mem_cons_of_mem _ hr, hholds⟩

/-- The interval of the row. -/
def span (r : CaseRow) : Band := ⟨r.first, r.last⟩

/-- The interval of the lower-case forms of the row. -/
def image (r : CaseRow) : Band := ⟨(r.first + r.shift).toNat, (r.last + r.shift).toNat⟩

/-- Whether no lower-case form of one row is in the other: the intervals are apart, or the forms are
the characters that a row of every second character leaves out. -/
def avoids (r s : CaseRow) : Bool :=
  r.image.apart s.span ||
    ((r.first == r.last || r.stride == 2) && s.stride == 2 && (r.image.first + s.first) % 2 == 1)

theorem Holds.image (h : r.Holds n) (hm : (n : Int) + r.shift = m) :
    r.image.first ≤ m ∧ m ≤ r.image.last := by
  obtain ⟨hlow, hhigh, -⟩ := h
  simp only [CaseRow.image]
  omega

theorem Holds.not_mem_of_apart (h : r.Holds n) (hm : (n : Int) + r.shift = m) {b : Band}
    (hb : r.image.apart b = true) : ¬ (b.first ≤ m ∧ m ≤ b.last) := by
  obtain ⟨hlow, hhigh⟩ := h.image hm
  rcases Band.apart_iff.mp hb with hb | hb <;> omega

theorem Holds.not_holds_of_avoids (h : r.Holds n) (hm : (n : Int) + r.shift = m)
    (havoids : r.avoids s = true) (hpos : 0 ≤ r.first + r.shift) : ¬ s.Holds m := by
  rintro ⟨hlow', hhigh', hstride'⟩
  rw [avoids, Bool.or_eq_true] at havoids
  rcases havoids with hapart | hodd
  · exact h.not_mem_of_apart hm hapart ⟨hlow', hhigh'⟩
  · -- the offsets of the two characters in their rows are even
    obtain ⟨hlow, hhigh, hstride⟩ := h
    simp only [CaseRow.image, Bool.and_eq_true, Bool.or_eq_true, beq_iff_eq] at hodd
    obtain ⟨⟨hwhole, hs⟩, hodd⟩ := hodd
    rw [hs] at hstride'
    rcases hwhole with hwhole | hr
    · omega
    · rw [hr] at hstride
      omega

end CaseRow

/-- The surrogates, which are no characters, and the capital whose lower-case form is not in the
table. -/
def unusedBands : List Band := [⟨0xD800, 0xDFFF⟩, ⟨0x0130, 0x0130⟩]

/-- The lower-case forms of the table are characters that are not blank and that the table leaves
alone. -/
theorem caseRows_image : ∀ r ∈ caseRows, 0 ≤ r.first + r.shift ∧ r.image.last < 0x110000 ∧
    (caseRows.all r.avoids) = true ∧ (unusedBands ++ blankBands).all r.image.apart = true := by
  decide +kernel

theorem blankBands_apart : ∀ b ∈ blankBands,
    (∀ r ∈ caseRows, b.apart r.span = true) ∧ (∀ b' ∈ casedBands, b.apart b' = true) ∧
      ∀ b' ∈ caseTransparentBands, b.apart b' = true := by
  decide +kernel

/-! ## Single characters -/

theorem shift?_of_isBlank {c : Char} (h : isBlank c = true) :
    CaseRow.shift? caseRows c.toNat = none := by
  rw [Option.eq_none_iff_forall_ne_some]
  intro shift hshift
  obtain ⟨b, hb, hlow, hhigh⟩ := Band.exists_of_covers h
  obtain ⟨r, hr, ⟨hfirst, hlast, -⟩, -⟩ := CaseRow.exists_of_shift? hshift
  have hapart := Band.apart_iff.mp ((blankBands_apart b hb).1 r hr)
  simp only [CaseRow.span] at hapart
  omega

theorem isCased_of_isBlank {c : Char} (h : isBlank c = true) : isCased c = false :=
  Band.covers_eq_false (fun b hb => (blankBands_apart b hb).2.1) h

theorem isCaseTransparent_of_isBlank {c : Char} (h : isBlank c = true) :
    isCaseTransparent c = false :=
  Band.covers_eq_false (fun b hb => (blankBands_apart b hb).2.2) h

/-- A lower-case form from the table. -/
theorem exists_lowered {c : Char} {shift : Int} (h : CaseRow.shift? caseRows c.toNat = some shift) :
    ∃ d : Char, Char.ofNat ((c.toNat : Int) + shift).toNat = d ∧ lowerChar d = [d] ∧
      isBlank d = false := by
  obtain ⟨r, hr, hholds, rfl⟩ := CaseRow.exists_of_shift? h
  obtain ⟨hpos, hlimit, hrows, hbands⟩ := caseRows_image r hr
  obtain ⟨m, hm⟩ : ∃ m : Nat, (c.toNat : Int) + r.shift = m :=
    Int.eq_ofNat_of_zero_le (by have := hholds.1; omega)
  have hband : ∀ b ∈ unusedBands ++ blankBands, ¬ (b.first ≤ m ∧ m ≤ b.last) :=
    fun b hb => hholds.not_mem_of_apart hm (List.all_eq_true.mp hbands b hb)
  have hvalid : m.isValidChar := by
    have hsurrogate : ¬ (0xD800 ≤ m ∧ m ≤ 0xDFFF) := hband ⟨0xD800, 0xDFFF⟩ (by simp [unusedBands])
    have := (hholds.image hm).2
    rw [Nat.isValidChar]
    omega
  have hnat : (Char.ofNat m).toNat = m := by
    rw [Char.ofNat, dif_pos hvalid]
    rfl
  refine ⟨Char.ofNat m, by rw [hm, Int.toNat_natCast], ?_, ?_⟩
  · have hdotted : Char.ofNat m ≠ '\u0130' := by
      intro heq
      have hm : m = 0x0130 := by
        rw [← hnat, heq]
        rfl
      exact hband ⟨0x0130, 0x0130⟩ (by simp [unusedBands]) ⟨hm.ge, hm.le⟩
    have hnone : CaseRow.shift? caseRows m = none := by
      rw [Option.eq_none_iff_forall_ne_some]
      intro shift hshift
      obtain ⟨s, hs, hs', -⟩ := CaseRow.exists_of_shift? hshift
      exact hholds.not_holds_of_avoids hm (List.all_eq_true.mp hrows s hs) hpos hs'
    rw [lowerChar, if_neg hdotted, hnat, hnone]
  · rw [isBlank, hnat, Bool.eq_false_iff]
    intro hblank
    obtain ⟨b, hb, hin⟩ := Band.exists_of_covers hblank
    exact hband b (List.mem_append_right _ hb) hin

/-- **Lower-casing of a character.** The dotted capital has a form of two characters. Any other
character is left alone, or it is no blank and becomes one that is left alone and is no blank. -/
theorem lowerChar_cases (c : Char) :
    (c = '\u0130' ∧ lowerChar c = ['i', '\u0307']) ∨ lowerChar c = [c] ∨
      ∃ d, lowerChar c = [d] ∧ lowerChar d = [d] ∧ isBlank c = false ∧ isBlank d = false := by
  by_cases hdotted : c = '\u0130'
  · exact .inl ⟨hdotted, by rw [lowerChar, if_pos hdotted]⟩
  · right
    cases hshift : CaseRow.shift? caseRows c.toNat with
    | none => exact .inl (by rw [lowerChar, if_neg hdotted, hshift])
    | some shift =>
      obtain ⟨d, hd, hlow, hblank⟩ := exists_lowered hshift
      refine .inr ⟨d, by rw [lowerChar, if_neg hdotted, hshift, ← hd], hlow, ?_, hblank⟩
      by_contra hc
      rw [shift?_of_isBlank (by simpa using hc)] at hshift
      exact Option.some_ne_none _ hshift.symm

theorem lowerChar_ne_nil (c : Char) : lowerChar c ≠ [] := by
  rcases lowerChar_cases c with ⟨-, h⟩ | h | ⟨d, h, -⟩ <;> simp [h]

/-- What lower-casing gives is in lower case. -/
theorem lowerChar_of_mem {c d : Char} (h : d ∈ lowerChar c) : lowerChar d = [d] := by
  rcases lowerChar_cases c with ⟨-, hc⟩ | hc | ⟨e, hc, he, -⟩
  · obtain rfl | rfl : d = 'i' ∨ d = '\u0307' := by simpa [hc] using h
    · decide +kernel
    · decide +kernel
  · obtain rfl : d = c := by simpa [hc] using h
    exact hc
  · obtain rfl : d = e := by simpa [hc] using h
    exact he

/-- Lower-casing neither makes nor removes a blank. -/
theorem isBlank_of_mem_lowerChar {c d : Char} (h : d ∈ lowerChar c) : isBlank d = isBlank c := by
  rcases lowerChar_cases c with ⟨rfl, hc⟩ | hc | ⟨e, hc, -, hblank, hblank'⟩
  · obtain rfl | rfl : d = 'i' ∨ d = '\u0307' := by simpa [hc] using h
    · decide +kernel
    · decide +kernel
  · obtain rfl : d = c := by simpa [hc] using h
    rfl
  · obtain rfl : d = e := by simpa [hc] using h
    rw [hblank, hblank']

theorem lowerChar_of_isBlank {c : Char} (h : isBlank c = true) : lowerChar c = [c] := by
  have hdotted : c ≠ '\u0130' := by
    rintro rfl
    exact absurd h (by decide +kernel)
  rw [lowerChar, if_neg hdotted, shift?_of_isBlank h]

/-- On its own a capital sigma does not take its final form. -/
theorem lowerChar_sigma : lowerChar 'Σ' = ['σ'] := by decide +kernel

/-! ## Texts -/

theorem lowerFrom_cons (b : Bool) (c : Char) (rest : Text) :
    lowerFrom b (c :: rest) =
      (if c = 'Σ' then [if b && !casedAhead rest then 'ς' else 'σ'] else lowerChar c) ++
        lowerFrom (if isCaseTransparent c then b else isCased c) rest := rfl

theorem mem_lowerFrom {b : Bool} {text : Text} {d : Char} (h : d ∈ lowerFrom b text) :
    ∃ c ∈ text, d ∈ lowerChar c ∨ c = 'Σ' ∧ d = 'ς' := by
  induction text generalizing b with
  | nil => simp [lowerFrom] at h
  | cons c rest ih =>
    rw [lowerFrom_cons] at h
    rcases List.mem_append.mp h with hhere | hlater
    · refine ⟨c, by simp, ?_⟩
      by_cases hsigma : c = 'Σ'
      · rw [if_pos hsigma, List.mem_singleton] at hhere
        split at hhere
        · exact .inr ⟨hsigma, hhere⟩
        · left
          rw [hsigma, lowerChar_sigma, hhere]
          exact List.mem_singleton_self _
      · rw [if_neg hsigma] at hhere
        exact .inl hhere
    · obtain ⟨c', hc', hd⟩ := ih hlater
      exact ⟨c', List.mem_cons_of_mem _ hc', hd⟩

theorem lowerFrom_ne_nil {b : Bool} {text : Text} (h : text ≠ []) : lowerFrom b text ≠ [] := by
  obtain ⟨c, rest, rfl⟩ := List.exists_cons_of_ne_nil h
  rw [lowerFrom_cons]
  apply List.append_ne_nil_of_left_ne_nil
  split
  · exact List.cons_ne_nil _ _
  · exact lowerChar_ne_nil c

/-- A text in lower case is left alone. -/
theorem lowerFrom_eq_self {b : Bool} {text : Text} (h : ∀ c ∈ text, lowerChar c = [c]) :
    lowerFrom b text = text := by
  induction text generalizing b with
  | nil => rfl
  | cons c rest ih =>
    have hsigma : c ≠ 'Σ' := by
      rintro rfl
      exact absurd (h 'Σ' (by simp)) (by decide +kernel)
    have hrest : ∀ d ∈ rest, lowerChar d = [d] := fun d hd => h d (List.mem_cons_of_mem _ hd)
    rw [lowerFrom_cons, if_neg hsigma, h c (by simp), ih hrest]
    rfl

theorem lowerChar_of_mem_lower {text : Text} {d : Char} (h : d ∈ lower text) :
    lowerChar d = [d] := by
  obtain ⟨c, -, hd | ⟨-, rfl⟩⟩ := mem_lowerFrom h
  · exact lowerChar_of_mem hd
  · decide +kernel

/-- **Lower-casing twice is lower-casing once.** -/
theorem lower_lower (text : Text) : lower (lower text) = lower text :=
  lowerFrom_eq_self fun _ hd => lowerChar_of_mem_lower hd

/-! ## The two small forms of sigma -/

/-- The character, with the final form of sigma taken for the other one. -/
def middleSigma (c : Char) : Char := if c = 'ς' then 'σ' else c

theorem middleSigma_eq_iff {c : Char} (hmid : c ≠ 'σ') (hfinal : c ≠ 'ς') (d : Char) :
    middleSigma d = c ↔ d = c := by
  rw [middleSigma]
  split
  · rename_i hd
    exact iff_of_false hmid.symm fun heq => hfinal (heq.symm.trans hd)
  · exact Iff.rfl

/-- Up to the form of sigma, a text is lowered character by character. -/
theorem map_middleSigma_lowerFrom (b : Bool) (text : Text) :
    (lowerFrom b text).map middleSigma = (text.flatMap lowerChar).map middleSigma := by
  induction text generalizing b with
  | nil => rfl
  | cons c rest ih =>
    rw [lowerFrom_cons, List.flatMap_cons, List.map_append, List.map_append, ih]
    congr 1
    by_cases hsigma : c = 'Σ'
    · rw [if_pos hsigma, hsigma, lowerChar_sigma]
      split <;> rfl
    · rw [if_neg hsigma]

/-- Where a map gives the characters of a text only for themselves, it gives the text only for
itself. -/
theorem map_eq_iff_eq {f : Char → Char} {x : Text} (hf : ∀ c ∈ x, ∀ d, f d = c ↔ d = c) (y : Text) :
    y.map f = x ↔ y = x := by
  induction x generalizing y with
  | nil => exact List.map_eq_nil_iff
  | cons c x ih =>
    cases y with
    | nil => simp
    | cons d y =>
      have hrest := ih (fun c' hc' => hf c' (List.mem_cons_of_mem c hc')) y
      rw [List.map_cons, List.cons.injEq, List.cons.injEq, hf c List.mem_cons_self, hrest]

/-- Where no sigma is in play, lower-casing acts on single characters. -/
theorem lower_eq_iff_of_noSigma {x y : Text} (hmid : 'σ' ∉ x.flatMap lowerChar)
    (hfinal : 'ς' ∉ x.flatMap lowerChar) :
    lower x = lower y ↔ x.flatMap lowerChar = y.flatMap lowerChar := by
  -- a text without sigmas is told from all others up to the form of sigma
  have hforms : ∀ z : Text, z.map middleSigma = x.flatMap lowerChar ↔ z = x.flatMap lowerChar :=
    map_eq_iff_eq fun c hc =>
      middleSigma_eq_iff (ne_of_mem_of_not_mem hc hmid) (ne_of_mem_of_not_mem hc hfinal)
  have hx : lower x = x.flatMap lowerChar := by
    rw [← hforms, lower, map_middleSigma_lowerFrom, hforms]
  calc lower x = lower y
    _ ↔ (lower y).map middleSigma = x.flatMap lowerChar := by rw [hx, hforms, eq_comm]
    _ ↔ (y.flatMap lowerChar).map middleSigma = x.flatMap lowerChar := by
      rw [lower, map_middleSigma_lowerFrom]
    _ ↔ x.flatMap lowerChar = y.flatMap lowerChar := by rw [hforms, eq_comm]

/-! ## Blanks between texts -/

/-- What is behind a blank does not count as ahead of it. -/
theorem casedAhead_append_break (x : Text) {g : Char} (hg : isBlank g = true) (y : Text) :
    casedAhead (x ++ g :: y) = casedAhead x := by
  induction x with
  | nil => simp [casedAhead, isCaseTransparent_of_isBlank hg, isCased_of_isBlank hg]
  | cons c rest ih => rw [List.cons_append, casedAhead, casedAhead, ih]

theorem lowerFrom_append_break (b : Bool) (x : Text) {g : Char} (hg : isBlank g = true) (y : Text) :
    lowerFrom b (x ++ g :: y) = lowerFrom b x ++ g :: lowerFrom false y := by
  induction x generalizing b with
  | nil =>
    have hsigma : g ≠ 'Σ' := by
      rintro rfl
      exact absurd hg (by decide +kernel)
    rw [List.nil_append, lowerFrom_cons, if_neg hsigma, isCaseTransparent_of_isBlank hg,
      isCased_of_isBlank hg, lowerChar_of_isBlank hg]
    rfl
  | cons c rest ih =>
    rw [List.cons_append, lowerFrom_cons, lowerFrom_cons, casedAhead_append_break rest hg, ih,
      List.append_assoc]

/-! ## Word by word -/

/-- The map acts on each word of a text by itself: it keeps blanks and makes none of a word. -/
structure WordWise (f : Text → Text) : Prop where
  nil : f [] = []
  append_break : ∀ x {g} y, isBlank g = true → f (x ++ g :: y) = f x ++ g :: f y
  word : ∀ {w}, w ≠ [] → (∀ c ∈ w, isBlank c = false) → f w ≠ [] ∧ ∀ d ∈ f w, isBlank d = false

namespace WordWise

variable {f : Text → Text} (h : WordWise f)

include h

theorem words_eq_of_word {w : Text} (hw : ∀ c ∈ w, isBlank c = false) :
    words (f w) = (words w).map f := by
  by_cases hnil : w = []
  · rw [hnil, h.nil]
    rfl
  · obtain ⟨hne, hchars⟩ := h.word hnil hw
    rw [words_word hne hchars, words_word hnil hw, List.map_singleton]

/-- The words of what is made of a text are what is made of its words. -/
theorem words_eq (text : Text) : words (f text) = (words text).map f := by
  have hfront : ∀ c ∈ text.takeWhile (fun c => !isBlank c), isBlank c = false := by
    intro c hc
    simpa using List.mem_takeWhile_imp hc
  have hsplit := List.takeWhile_append_dropWhile (p := fun c => !isBlank c) (l := text)
  cases hrest : text.dropWhile (fun c => !isBlank c) with
  | nil =>
    rw [hrest, List.append_nil] at hsplit
    rw [hsplit] at hfront
    exact h.words_eq_of_word hfront
  | cons g rest =>
    have hg : isBlank g = true := by
      have := List.head?_dropWhile_not (fun c => !isBlank c) text
      simpa [hrest] using this
    rw [hrest] at hsplit
    have hshorter : rest.length < text.length := by
      rw [← hsplit, List.length_append, List.length_cons]
      omega
    rw [← hsplit, h.append_break _ _ hg, words_append_break _ hg, words_append_break _ hg,
      h.words_eq_of_word hfront, words_eq rest, List.map_append]
termination_by text.length

theorem joinWords_eq (ws : List Text) : f (joinWords ws) = joinWords (ws.map f) := by
  induction ws with
  | nil => exact h.nil
  | cons w ws ih =>
    by_cases hnil : ws = []
    · rw [hnil, List.map_singleton, joinWords_singleton, joinWords_singleton]
    · rw [List.map_cons, joinWords_cons w hnil, joinWords_cons (f w) (by simpa using hnil), ← ih,
        List.append_assoc, List.append_assoc]
      exact h.append_break w (joinWords ws) isBlank_space

theorem collapse_eq_iff {x y : Text} :
    f (collapse x) = f (collapse y) ↔ (words x).map f = (words y).map f := by
  constructor
  · intro heq
    have hwords := congrArg words heq
    rwa [h.words_eq, h.words_eq, words_collapse, words_collapse] at hwords
  · intro heq
    rw [collapse_eq_joinWords, collapse_eq_joinWords, h.joinWords_eq, h.joinWords_eq, heq]

end WordWise

/-- **Texts are lowered word by word.** -/
theorem wordWise_lower : WordWise lower where
  nil := rfl
  append_break := fun x _ y hg => lowerFrom_append_break false x hg y
  word := by
    intro w hne hw
    refine ⟨lowerFrom_ne_nil hne, ?_⟩
    intro d hd
    obtain ⟨c, hc, hd | ⟨-, rfl⟩⟩ := mem_lowerFrom hd
    · rw [isBlank_of_mem_lowerChar hd, hw c hc]
    · decide +kernel

/-- So are texts whose characters are lowered each on its own. -/
theorem wordWise_lowerChar : WordWise fun text => text.flatMap lowerChar where
  nil := rfl
  append_break := by
    intro x g y hg
    rw [List.flatMap_append, List.flatMap_cons, lowerChar_of_isBlank hg]
    rfl
  word := by
    intro w hne hw
    obtain ⟨c, rest, rfl⟩ := List.exists_cons_of_ne_nil hne
    refine ⟨?_, ?_⟩
    · rw [List.flatMap_cons]
      exact List.append_ne_nil_of_left_ne_nil (lowerChar_ne_nil c) _
    · intro d hd
      obtain ⟨e, he, hd⟩ := List.mem_flatMap.mp hd
      rw [isBlank_of_mem_lowerChar hd, hw e he]

end TypeLens
