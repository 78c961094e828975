/-
# TypeLens.Proofs.Locate.Standalone -- specifiers that stand by themselves

A spelling of specifiers stands by itself when neither the text before it nor the text behind it
continues it: no word character touches it, no star comes directly before it, and the words next to
it on either side, blanks apart, are no runs of vocabulary words (`Standalone`).

Then every cursor on the spelling sees it, and sees it as a composite expression
(`locate_spelled`). The left side is the delicate one, since the scan from left to right reaches the
spelling only if no earlier find runs into it: a find that starts before the spelling ends before
it, with at least one character between them.
-/
import Mathlib.Data.List.TakeWhile
import Mathlib.Tactic.MkIffOfInductiveProp
import TypeLens.Proofs.Locate.Locality
import TypeLens.Proofs.Locate.Words
import TypeLens.Proofs.Text.Spacing

namespace TypeLens

/-! ## Surroundings -/

theorem keywordRun_iff (w : Text) :
    KeywordRun w ↔ w.all isWordChar = true ∧ (compositeEnd w).isSome = true := by
  rw [List.all_eq_true]
  constructor
  · intro h
    refine ⟨h.isWordChar, ?_⟩
    rw [compositeEnd_isSome_iff, List.takeWhile_eq_self_iff.mpr h.isWordChar]
    exact h
  · rintro ⟨hchars, hsome⟩
    rwa [compositeEnd_isSome_iff, List.takeWhile_eq_self_iff.mpr hchars] at hsome

instance (w : Text) : Decidable (KeywordRun w) := decidable_of_iff _ (keywordRun_iff w).symm

theorem isBlank_of_isWordChar {c : Char} (h : isWordChar c = true) : isBlank c = false := by
  by_contra hblank
  rw [isWordChar_of_isBlank (by simpa using hblank)] at h
  exact Bool.false_ne_true h

theorem ne_star_of_isWordChar {c : Char} (h : isWordChar c = true) : c ≠ '*' := by
  rintro rfl
  rw [isWordChar_star] at h
  exact Bool.false_ne_true h

/-- The word at the end of a text, blanks behind it apart; empty if there is none. -/
def lastWord (text : Text) : Text :=
  ((text.reverse.dropWhile isBlank).takeWhile isWordChar).reverse

/-- The word at the front of a text, blanks before it apart; empty if there is none. -/
def firstWord (text : Text) : Text := (text.dropWhile isBlank).takeWhile isWordChar

/-- The text `p` before an expression and the text `q` behind it leave it by itself. -/
@[mk_iff] structure Standalone (p q : Text) : Prop where
  noWordBefore : inWord p.getLast? = false
  noStarBefore : p.getLast? ≠ some '*'
  noRunBefore : ¬ KeywordRun (lastWord p)
  noWordBehind : inWord q.head? = false
  noRunBehind : ¬ KeywordRun (firstWord q)

instance (p q : Text) : Decidable (Standalone p q) := decidable_of_iff _ (standalone_iff p q).symm

/-- A text that does not end with a run of vocabulary words and blanks. -/
def EndsFree (x : Text) : Prop :=
  ∀ a w gap, x = a ++ w ++ gap → inWord a.getLast? = false → (∀ c ∈ gap, isBlank c = true) →
    ¬ KeywordRun w

theorem EndsFree.suffix {a x : Text} (h : EndsFree (a ++ x)) (ha : inWord a.getLast? = false) :
    EndsFree x := by
  intro b w gap hx hb hgap
  refine h (a ++ b) w gap ?_ ?_ hgap
  · rw [hx, List.append_assoc, List.append_assoc, List.append_assoc]
  · rw [List.getLast?_append]
    cases hlast : b.getLast? with
    | none => exact ha
    | some c => rwa [hlast] at hb

theorem lastWord_append {a w gap : Text} (ha : inWord a.getLast? = false)
    (hw : ∀ c ∈ w, isWordChar c = true) (hne : w ≠ []) (hgap : ∀ c ∈ gap, isBlank c = true) :
    lastWord (a ++ w ++ gap) = w := by
  have hstart : startsBlank (w.reverse ++ a.reverse) = false := by
    obtain ⟨c, rest, hrev⟩ := List.exists_cons_of_ne_nil (List.reverse_ne_nil_iff.mpr hne)
    have hc : isWordChar c = true := hw c (List.mem_reverse.mp (by simp [hrev]))
    rw [hrev]
    exact isBlank_of_isWordChar hc
  have hword : (w.reverse ++ a.reverse).takeWhile isWordChar = w.reverse := by
    apply takeWhile_word_append
    · intro c hc
      exact hw c (List.mem_reverse.mp hc)
    · rwa [List.head?_reverse]
  rw [lastWord, List.reverse_append, List.reverse_append,
    List.dropWhile_append_of_pos (fun c hc => hgap c (List.mem_reverse.mp hc)),
    dropWhile_eq_self_of_startsBlank hstart, hword, List.reverse_reverse]

/-- A text taken apart into what is before its last word, that word, and the blanks behind it. -/
theorem exists_lastWord (text : Text) :
    ∃ a gap, text = a ++ lastWord text ++ gap ∧ inWord a.getLast? = false ∧
      ∀ c ∈ gap, isBlank c = true := by
  refine ⟨((text.reverse.dropWhile isBlank).dropWhile isWordChar).reverse,
    (text.reverse.takeWhile isBlank).reverse, ?_, ?_, ?_⟩
  · rw [lastWord, ← List.reverse_append, List.takeWhile_append_dropWhile, ← List.reverse_append,
      List.takeWhile_append_dropWhile, List.reverse_reverse]
  · rw [List.getLast?_reverse]
    exact inWord_head_dropWhile _
  · intro c hc
    exact List.mem_takeWhile_imp (List.mem_reverse.mp hc)

theorem Standalone.endsFree {p q : Text} (h : Standalone p q) : EndsFree p := by
  intro a w gap hp ha hgap hw
  apply h.noRunBefore
  rwa [hp, lastWord_append ha hw.isWordChar hw.ne_nil hgap]

/-- A word at the front of a longer text ends within the first part, if that does not end in a
word. -/
theorem exists_of_word_append {x y w rest : Text} (hx : x ≠ [])
    (hlast : inWord x.getLast? = false) (hw : ∀ c ∈ w, isWordChar c = true)
    (heq : x ++ y = w ++ rest) : ∃ r, r ≠ [] ∧ x = w ++ r ∧ rest = r ++ y := by
  have hnot : ∀ r, w ≠ x ++ r := by
    rintro r rfl
    rw [List.getLast?_eq_some_getLast hx] at hlast
    have hchar := hw _ (List.mem_append_left r (List.getLast_mem hx))
    exact Bool.false_ne_true (hlast.symm.trans hchar)
  rcases List.append_eq_append_iff.mp heq with ⟨r, hr, -⟩ | ⟨r, rfl, rfl⟩
  · exact absurd hr (hnot r)
  · refine ⟨r, ?_, rfl, rfl⟩
    rintro rfl
    exact hnot [] (by rw [List.append_nil, List.append_nil])

/-! ## Texts that end neither in a word nor with a star -/

/-- A text with a last character that is neither a word character nor a star. -/
def Closed (x : Text) : Prop := ∃ a c, x = a ++ [c] ∧ isWordChar c = false ∧ c ≠ '*'

namespace Closed

variable {x y : Text} {p : Char → Bool}

theorem ne_nil (h : Closed x) : x ≠ [] := by
  obtain ⟨a, c, rfl, -⟩ := h
  simp

theorem inWord_last (h : Closed x) : inWord x.getLast? = false := by
  obtain ⟨a, c, rfl, hc, -⟩ := h
  rw [List.getLast?_concat]
  exact hc

theorem suffix {a : Text} (h : Closed (a ++ x)) (hx : x ≠ []) : Closed x := by
  obtain ⟨b, c, heq, hc⟩ := h
  refine ⟨x.dropLast, x.getLast hx, (List.dropLast_append_getLast hx).symm, ?_⟩
  have hlast := congrArg List.getLast? heq
  rw [List.getLast?_append_of_ne_nil _ hx, List.getLast?_concat,
    List.getLast?_eq_some_getLast hx] at hlast
  rwa [Option.some.inj hlast]

/-- A run that the last character does not belong to ends inside the text. -/
theorem takeWhile_append (h : Closed x)
    (hp : ∀ c, isWordChar c = false → c ≠ '*' → p c = false) (y : Text) :
    (x ++ y).takeWhile p = x.takeWhile p := by
  obtain ⟨a, c, rfl, hword, hstar⟩ := h
  have hc := hp c hword hstar
  rw [List.append_assoc, List.singleton_append, Delimiter.takeWhile_append hc,
    Delimiter.takeWhile_append hc]

theorem dropWhile_append (h : Closed x)
    (hp : ∀ c, isWordChar c = false → c ≠ '*' → p c = false) (y : Text) :
    (x ++ y).dropWhile p = x.dropWhile p ++ y := by
  obtain ⟨a, c, rfl, hword, hstar⟩ := h
  have hc := hp c hword hstar
  rw [List.append_assoc, List.singleton_append, Delimiter.dropWhile_append hc,
    Delimiter.dropWhile_append hc, List.append_assoc, List.singleton_append]

/-- What is left behind such a run is closed too. -/
theorem dropWhile (h : Closed x) (hp : ∀ c, isWordChar c = false → c ≠ '*' → p c = false) :
    Closed (x.dropWhile p) := by
  obtain ⟨a, c, rfl, hword, hstar⟩ := h
  refine ⟨a.dropWhile p, c, ?_, hword, hstar⟩
  exact Delimiter.dropWhile_append (hp c hword hstar) a []

/-- A word at the front of a longer text lies within the closed part. -/
theorem exists_of_word {w rest : Text} (h : Closed x) (hw : ∀ c ∈ w, isWordChar c = true)
    (heq : x ++ y = w ++ rest) : ∃ r, x = w ++ r ∧ rest = r ++ y ∧ Closed r := by
  obtain ⟨r, hr, rfl, rfl⟩ := exists_of_word_append h.ne_nil h.inWord_last hw heq
  exact ⟨r, rfl, rfl, h.suffix hr⟩

end Closed

theorem isWordChar_stops : ∀ c, isWordChar c = false → c ≠ '*' → isWordChar c = false :=
  fun _ hword _ => hword

theorem star_stops : ∀ c, isWordChar c = false → c ≠ '*' → (c == '*') = false :=
  fun _ _ hstar => by simpa using hstar

theorem Standalone.closed {p q a r : Text} (h : Standalone p q) (hp : p = a ++ r) (hr : r ≠ []) :
    Closed r := by
  have hlast : p.getLast? = some (r.getLast hr) := by
    rw [hp, List.getLast?_append_of_ne_nil _ hr, List.getLast?_eq_some_getLast hr]
  refine ⟨r.dropLast, r.getLast hr, (List.dropLast_append_getLast hr).symm, ?_, ?_⟩
  · have hword := h.noWordBefore
    rwa [hlast] at hword
  · intro hstar
    exact h.noStarBefore (by rw [hlast, hstar])

/-! ## What starts before the expression ends before it -/

/-- A run that ends within the first part does not see the second. -/
theorem dropWhile_append_of_ne_nil {p : Char → Bool} {x : Text} (h : x.dropWhile p ≠ [])
    (y : Text) : (x ++ y).dropWhile p = x.dropWhile p ++ y := by
  rw [List.dropWhile_append, if_neg (by simpa using h)]

theorem runLength_append_of_ne_nil {p : Char → Bool} {x : Text} (h : x.dropWhile p ≠ [])
    (y : Text) : runLength p (x ++ y) = runLength p x := by
  have hwhole := runLength_add_length p (x ++ y)
  have hpart := runLength_add_length p x
  rw [dropWhile_append_of_ne_nil h, List.length_append, List.length_append] at hwhole
  omega

/-- Behind a run of vocabulary words there is more than blanks. -/
theorem EndsFree.dropWhile_ne_nil {w r : Text} (h : EndsFree (w ++ r)) (hw : KeywordRun w) :
    r.dropWhile isBlank ≠ [] := by
  intro hnil
  rw [List.dropWhile_eq_nil_iff] at hnil
  exact h [] w r (by rw [List.nil_append]) rfl hnil hw

/-- The part of a closed text behind the blanks at its front. -/
theorem Closed.dropWhile_blanks {r : Text} (hr : Closed r) (hblank : r.dropWhile isBlank ≠ []) :
    Closed (r.dropWhile isBlank) := by
  apply Closed.suffix (a := r.takeWhile isBlank) _ hblank
  rwa [List.takeWhile_append_dropWhile]

theorem compositeTail_lt {r y : Text} (hr : Closed r) (hblank : r.dropWhile isBlank ≠ []) :
    compositeTail (r ++ y) < r.length := by
  have hclosed := hr.dropWhile_blanks hblank
  have hblanks := runLength_add_length isBlank r
  have hstars := runLength_add_length (· == '*') (r.dropWhile isBlank)
  have hleft := List.length_pos_of_ne_nil (hclosed.dropWhile star_stops).ne_nil
  have hrun : runLength (· == '*') (r.dropWhile isBlank ++ y) =
      runLength (· == '*') (r.dropWhile isBlank) := by
    rw [runLength, hclosed.takeWhile_append star_stops, runLength]
  rw [compositeTail, dropWhile_append_of_ne_nil hblank, runLength_append_of_ne_nil hblank, hrun]
  split
  · omega
  · exact List.length_pos_of_ne_nil hr.ne_nil

theorem inWord_getLast_blanks (a : Text) {gap : Text} (hne : gap ≠ [])
    (hgap : ∀ c ∈ gap, isBlank c = true) : inWord (a ++ gap).getLast? = false := by
  rw [List.getLast?_append_of_ne_nil _ hne, List.getLast?_eq_some_getLast hne]
  exact inWord_of_blank (hgap _ (List.getLast_mem hne))

/-- Where another word begins behind the blanks, there are blanks. -/
theorem blanks_ne_nil {r : Text} (hr : inWord r.head? = false)
    (hnext : inWord (r.dropWhile isBlank).head? = true) : r.takeWhile isBlank ≠ [] := by
  intro hnil
  have hall := List.takeWhile_append_dropWhile (p := isBlank) (l := r)
  rw [hnil, List.nil_append] at hall
  rw [hall, hr] at hnext
  exact Bool.false_ne_true hnext

/-- A composite expression that starts in a closed text without a run of vocabulary words at its
end leaves at least one character of that text. -/
theorem compositeEnd_lt {x y : Text} {n : Nat} (hx : Closed x) (hfree : EndsFree x)
    (h : compositeEnd (x ++ y) = some n) : n < x.length := by
  have hrun := keywordRun_of_compositeEnd h
  obtain ⟨m, hm, rfl⟩ := exists_endBehind_of_compositeEnd h
  have hr := hx.dropWhile isWordChar_stops
  have hlen := runLength_add_length isWordChar x
  have hnot := inWord_head_dropWhile x
  rw [hx.dropWhile_append isWordChar_stops] at hm
  rw [hx.takeWhile_append isWordChar_stops] at hrun
  rw [runLength, hx.takeWhile_append isWordChar_stops, ← runLength]
  rw [← List.takeWhile_append_dropWhile (p := isWordChar) (l := x)] at hfree
  have hpos : 0 < runLength isWordChar x := List.length_pos_of_ne_nil hrun.ne_nil
  -- `r` is what follows the first word; the recursion goes on behind its blanks
  generalize x.dropWhile isWordChar = r at hm hr hlen hnot hfree
  have hblank := hfree.dropWhile_ne_nil hrun
  have hhead : inWord (r ++ y).head? = false := by
    rwa [List.head?_append_of_ne_nil _ hr.ne_nil]
  rcases endBehind_eq_some hhead hm with rfl | ⟨j, hj, rfl⟩
  · have := compositeTail_lt (y := y) hr hblank
    omega
  · rw [dropWhile_append_of_ne_nil hblank] at hj
    rw [runLength_append_of_ne_nil hblank]
    have hnext : inWord (r.dropWhile isBlank).head? = true := by
      have hword := inWord_head_of_compositeEnd hj
      rwa [List.head?_append_of_ne_nil _ hblank] at hword
    have hfree' : EndsFree (r.dropWhile isBlank) := by
      apply EndsFree.suffix _ (inWord_getLast_blanks (x.takeWhile isWordChar)
        (blanks_ne_nil hnot hnext) fun c hc => List.mem_takeWhile_imp hc)
      rwa [List.append_assoc, List.takeWhile_append_dropWhile]
    have hblanks := runLength_add_length isBlank r
    have := compositeEnd_lt (hr.dropWhile_blanks hblank) hfree' hj
    omega
termination_by x.length

/-- The stars of a mention end in a closed text too, since no star begins what is behind it. -/
theorem pointerTail_lt {r y : Text} (hr : Closed r) (hy : inWord y.head? = true) :
    pointerTail (r ++ y) < r.length := by
  by_cases hblank : r.dropWhile isBlank = []
  · -- blanks only, and the word behind them has no stars before it
    have hhead : ∀ q : Char → Bool, (∀ c, isWordChar c = true → q c = false) →
        y.takeWhile q = [] ∧ y.dropWhile q = y := by
      intro q hq
      cases y with
      | nil => simp [inWord] at hy
      | cons c rest => simp [hq c hy]
    have hdrop : (r ++ y).dropWhile isBlank = y := by
      rw [List.dropWhile_append, if_pos (by simpa using hblank)]
      exact (hhead isBlank fun c hc => isBlank_of_isWordChar hc).2
    have hstars : y.takeWhile (· == '*') = [] :=
      (hhead (· == '*') fun c hc => by simpa using ne_star_of_isWordChar hc).1
    simp only [pointerTail, hdrop, hstars]
    exact List.length_pos_of_ne_nil hr.ne_nil
  · exact Nat.lt_of_le_of_lt (pointerTail_le_compositeTail _) (compositeTail_lt hr hblank)

theorem keywordRun_of_mem_aggregateKeywords {k : Text} (hk : k ∈ aggregateKeywords) :
    KeywordRun k :=
  .one (aggregateKeywords_sub_vocabulary k hk)

theorem keywordRun_of_vocabulary {ws : List Text} (hws : ∀ w ∈ ws, w ∈ vocabulary) :
    ∀ w ∈ ws, KeywordRun w :=
  fun w hw => .one (hws w hw)

/-- The keyword of a mention is the first word of the text. -/
theorem takeWhile_of_readMentionOf {k text : Text} {found : Found Mention}
    (hk : k ∈ aggregateKeywords) (h : readMentionOf k text = some found) :
    text.takeWhile isWordChar = k := by
  obtain ⟨behind, rfl, hblanks, -⟩ := readMentionOf_eq_some h
  apply takeWhile_word_append (keywordRun_of_mem_aggregateKeywords hk).isWordChar
  cases behind with
  | nil => rfl
  | cons b behind =>
    apply inWord_of_blank
    by_contra hb
    exact hblanks (List.takeWhile_cons_of_neg hb)

/-- A mention that starts in a closed text without a run of vocabulary words at its end leaves at
least one character of that text. -/
theorem readMentionOf_lt {x y k : Text} {found : Found Mention} (hx : Closed x)
    (hfree : EndsFree x) (hy : inWord y.head? = true) (hk : k ∈ aggregateKeywords)
    (h : readMentionOf k (x ++ y) = some found) : found.width < x.length := by
  have hrun := keywordRun_of_mem_aggregateKeywords hk
  obtain ⟨behind, heq, -, -, hwidth⟩ := readMentionOf_eq_some h
  obtain ⟨r, rfl, rfl, hr⟩ := hx.exists_of_word hrun.isWordChar heq
  have hblank := hfree.dropWhile_ne_nil hrun
  have hname := hr.dropWhile_blanks hblank
  have hrest := hname.dropWhile isWordChar_stops
  rw [runLength_append_of_ne_nil hblank, dropWhile_append_of_ne_nil hblank,
    runLength_append_of_ne_nil hrest.ne_nil, dropWhile_append_of_ne_nil hrest.ne_nil] at hwidth
  have htail := pointerTail_lt hrest hy
  have hblanks := runLength_add_length isBlank r
  have hword := runLength_add_length isWordChar (r.dropWhile isBlank)
  rw [hwidth, List.length_append]
  omega

/-! ## Words of the expression -/

theorem inWord_getLast_of_append {a b : Text} (h : inWord (a ++ b).getLast? = false) :
    inWord b.getLast? = false := by
  rw [List.getLast?_append] at h
  cases hlast : b.getLast? with
  | none => rfl
  | some c => rwa [hlast] at h

theorem inWord_head_blanks {gap : Text} (hne : gap ≠ []) (hgap : ∀ c ∈ gap, isBlank c = true)
    (rest : Text) : inWord (gap ++ rest).head? = false := by
  obtain ⟨c, gap, rfl⟩ := List.exists_cons_of_ne_nil hne
  exact inWord_of_blank (hgap c (by simp))

/-- A place in a word that is not behind a word character is at the front of the word. -/
theorem eq_nil_of_word_append {w a b : Text} (hw : ∀ c ∈ w, isWordChar c = true) (h : w = a ++ b)
    (ha : inWord a.getLast? = false) : a = [] := by
  by_contra hne
  rw [List.getLast?_eq_some_getLast hne] at ha
  have hchar := hw (a.getLast hne) (by rw [h]; exact List.mem_append_left _ (List.getLast_mem hne))
  exact Bool.false_ne_true (ha.symm.trans hchar)

/-- Where a word begins in a word and more, it is at the front or behind the blanks after the
word. -/
theorem place_behind_word {w gap t q t₁ t₂ : Text} (hw : ∀ c ∈ w, isWordChar c = true)
    (hne : gap ≠ []) (hgap : ∀ c ∈ gap, isBlank c = true) (ht : w ++ gap ++ t = t₁ ++ t₂)
    (hbefore : inWord t₁.getLast? = false) (hhead : inWord (t₂ ++ q).head? = true) :
    t₁ = [] ∨ ∃ a, t₁ = w ++ gap ++ a ∧ t = a ++ t₂ := by
  rw [List.append_assoc] at ht
  rcases List.append_eq_append_iff.mp ht with ⟨a, rfl, hgt⟩ | ⟨b, hwb, rfl⟩
  · right
    rcases List.append_eq_append_iff.mp hgt with ⟨a', rfl, ht'⟩ | ⟨b', rfl, rfl⟩
    · exact ⟨a', by rw [List.append_assoc], ht'⟩
    · by_cases hnil : b' = []
      · subst hnil
        exact ⟨[], by rw [List.append_nil, List.append_nil], rfl⟩
      · -- no word begins in the blanks
        obtain ⟨c, b', rfl⟩ := List.exists_cons_of_ne_nil hnil
        have hc : inWord (some c) = false := inWord_of_blank (hgap c (by simp))
        exact absurd (hc.symm.trans hhead) Bool.false_ne_true
  · exact .inl (eq_nil_of_word_append hw hwb hbefore)

/-- The word that begins inside a spelling is one of its words. -/
theorem Spelled.word_at {ws : List Text} {t q t₁ t₂ : Text} (h : Spelled ws t)
    (hws : ∀ w ∈ ws, ∀ c ∈ w, isWordChar c = true) (hq : inWord q.head? = false)
    (ht : t = t₁ ++ t₂) (hbefore : inWord t₁.getLast? = false)
    (hhead : inWord (t₂ ++ q).head? = true) : (t₂ ++ q).takeWhile isWordChar ∈ ws := by
  induction h generalizing t₁ with
  | one w =>
    have hw := hws w (by simp)
    obtain rfl := eq_nil_of_word_append hw ht hbefore
    rw [← List.nil_append t₂, ← ht, takeWhile_word_append hw hq]
    simp
  | @more ws gap t w hne hgap rest ih =>
    have hw := hws w (by simp)
    rcases place_behind_word hw hne hgap ht hbefore hhead with rfl | ⟨a, rfl, ht'⟩
    · have hg := inWord_head_blanks hne hgap (t ++ q)
      rw [← List.nil_append t₂, ← ht, List.append_assoc, List.append_assoc,
        takeWhile_word_append hw hg]
      simp
    · apply List.mem_cons_of_mem
      exact ih (fun v hv => hws v (List.mem_cons_of_mem _ hv)) ht'
        (inWord_getLast_of_append hbefore)

/-- A place that does not lie behind the spelling lies before it or in it. -/
theorem Standalone.place_cases {p t q passed rest : Text} (hpq : Standalone p q)
    (hline : p ++ t ++ q = passed ++ rest) (hle : passed.length ≤ p.length + t.length) :
    (∃ r, p = passed ++ r ∧ rest = r ++ (t ++ q) ∧ Closed r) ∨
      ∃ t₁ t₂, t = t₁ ++ t₂ ∧ passed = p ++ t₁ ∧ rest = t₂ ++ q := by
  rw [List.append_assoc] at hline
  rcases List.append_eq_append_iff.mp hline with ⟨a, rfl, htq⟩ | ⟨r, hp, rfl⟩
  · right
    rcases List.append_eq_append_iff.mp htq with ⟨a', rfl, rfl⟩ | ⟨t₂, rfl, rfl⟩
    · have hnil : a' = [] := by
        rw [List.length_append, List.length_append] at hle
        exact List.length_eq_zero_iff.mp (by omega)
      subst hnil
      exact ⟨t, [], by rw [List.append_nil], by rw [List.append_nil], rfl⟩
    · exact ⟨a, t₂, rfl, rfl, rfl⟩
  · by_cases hnil : r = []
    · subst hnil
      right
      exact ⟨[], t, rfl, by rw [hp, List.append_nil, List.append_nil], rfl⟩
    · exact .inl ⟨r, hp, rfl, hpq.closed hp hnil⟩

/-- What the scan reads before the expression ends before it. -/
theorem Standalone.readComposite_lt {p q passed rest y : Text} {found : Found Unit}
    (hpq : Standalone p q) (hp : p = passed ++ rest) (hne : rest ≠ [])
    (hread : readComposite passed.getLast? (rest ++ y) = some found) :
    found.width < rest.length := by
  obtain ⟨hbefore, hfound⟩ := readComposite_eq_some hread
  have hfree : EndsFree rest := EndsFree.suffix (hp ▸ hpq.endsFree) hbefore
  exact compositeEnd_lt (hpq.closed hp hne) hfree hfound

/-! ## Where the expression ends -/

section Runs

variable {ws : List Text} {t : Text} (hs : Spelled ws t) (hws : ∀ w ∈ ws, KeywordRun w)

include hs hws

theorem Spelled.inWord_head (rest : Text) : inWord (t ++ rest).head? = true := by
  obtain ⟨c, hhead, hc⟩ := hs.exists_head (p := isWordChar) fun w hw =>
    ⟨(hws w hw).ne_nil, (hws w hw).isWordChar⟩
  obtain ⟨t', rfl⟩ := List.head?_eq_some_iff.mp hhead
  exact hc

/-- Behind the words, only the tail can follow. -/
theorem compositeEnd_spelled {q : Text} (hq : inWord q.head? = false)
    (hrun : ¬ KeywordRun (firstWord q)) :
    compositeEnd (t ++ q) = some (t.length + compositeTail q) := by
  induction hs with
  | one w =>
    have hnone : compositeEnd (q.dropWhile isBlank) = none := by
      rw [← Option.not_isSome_iff_eq_none, compositeEnd_isSome_iff]
      exact hrun
    rw [compositeEnd_run (hws w (by simp)) hq, endBehind, if_neg (by simp [hq]), hnone]
    rfl
  | @more ws gap t w hne hgap rest ih =>
    have hlater : ∀ v ∈ ws, KeywordRun v := fun v hv => hws v (List.mem_cons_of_mem _ hv)
    have hhead := inWord_head_blanks hne hgap (t ++ q)
    have hstart : startsBlank (t ++ q) = false := by
      have hword := rest.inWord_head hlater q
      cases htext : t ++ q with
      | nil => rfl
      | cons c text =>
        rw [htext] at hword
        exact isBlank_of_isWordChar hword
    obtain ⟨hdrop, hlen⟩ := run_append hgap (dropWhile_eq_self_of_startsBlank hstart)
    rw [List.append_assoc, List.append_assoc, compositeEnd_run (hws w (by simp)) hhead,
      endBehind, if_neg (by simp only [hhead]; exact Bool.false_ne_true), hdrop, ih hlater, hlen]
    simp only [Option.map_some, Option.some_or, List.length_append, Option.some.injEq]
    omega

end Runs

/-! ## What each strategy sees -/

section See

variable {ws : List Text} {t p q : Text} (hs : Spelled ws t)
  (hws : ∀ w ∈ ws, w ∈ vocabulary) (hpq : Standalone p q)

include hs hws

theorem Spelled.star_not_mem : '*' ∉ t := by
  intro hmem
  rcases hs.mem hmem with hblank | ⟨w, hw, hc⟩
  · exact absurd hblank (by decide)
  · have hchar := isWordChar_of_mem_vocabulary (hws w hw) _ hc
    exact ne_star_of_isWordChar hchar rfl

include hpq

variable {c : Int} (hlow : p.length ≤ c) (hhigh : c ≤ p.length + t.length)

include hlow hhigh

theorem seeMention_spelled (hplain : ∀ w ∈ ws, w ∉ aggregateKeywords) :
    Strategy.seeMention (p ++ t ++ q) c = none := by
  have hnone : firstTouching readMention (p ++ t ++ q) c = none := by
    apply firstTouching_eq_none
    intro pos found hmem htouch
    obtain ⟨passed, rest, hline, -, rfl, hread⟩ := mem_occurrences hmem
    obtain ⟨hbefore, k, hk, hof⟩ := readMention_eq_some hread
    obtain ⟨hstart, hstop⟩ := Span.touches_iff.mp htouch
    simp only [Found.span] at hstart hstop
    rcases hpq.place_cases hline (by omega) with ⟨r, rfl, rfl, hr⟩ | ⟨t₁, t₂, ht, rfl, rfl⟩
    · -- a mention from before the spelling ends before it
      have hfree : EndsFree r := hpq.endsFree.suffix hbefore
      have hwidth := readMentionOf_lt hr hfree (hs.inWord_head (keywordRun_of_vocabulary hws) q) hk hof
      rw [List.length_append] at hlow
      omega
    · -- the keyword of the mention would be one of the words
      obtain ⟨behind, htext, -⟩ := readMentionOf_eq_some hof
      have hhead : inWord (t₂ ++ q).head? = true := by
        rw [htext]
        exact (keywordRun_of_mem_aggregateKeywords hk).inWord_head behind
      have hword := hs.word_at (fun w hw => isWordChar_of_mem_vocabulary (hws w hw))
        hpq.noWordBehind ht (inWord_getLast_of_append hbefore) hhead
      rw [takeWhile_of_readMentionOf hk hof] at hword
      exact hplain k hword hk
  show (firstTouching readMention (p ++ t ++ q) c).map _ = none
  rw [hnone, Option.map_none]

/-- The word at a cursor on the spelling is one of its words. -/
theorem touchingWord_spelled {s : Sighting} (h : touchingWord (p ++ t ++ q) c = some s) :
    s.text ∈ ws := by
  rw [touchingWord_eq] at h
  obtain ⟨⟨pos, found⟩, hfirst, rfl⟩ := Option.map_eq_some_iff.mp h
  have htouch := List.find?_some hfirst
  obtain ⟨passed, rest, hline, rfl, hbefore, hne, rfl⟩ :=
    mem_occurrences_readWord.mp (List.mem_of_find?_eq_some hfirst)
  obtain ⟨hstart, hstop⟩ := Span.touches_iff.mp htouch
  simp only [Found.span] at hstart hstop
  rcases hpq.place_cases hline (by omega) with ⟨r, rfl, rfl, hr⟩ | ⟨t₁, t₂, ht, rfl, rfl⟩
  · -- the word would end in the closed part
    exfalso
    have hleft := List.length_pos_of_ne_nil (hr.dropWhile isWordChar_stops).ne_nil
    have hlen := runLength_add_length isWordChar r
    rw [hr.takeWhile_append isWordChar_stops, ← runLength] at hstop
    rw [List.length_append] at hlow
    omega
  · have hhead : inWord (t₂ ++ q).head? = true := by
      by_contra hno
      exact hne (takeWhile_eq_nil_of_head (by simpa using hno))
    exact hs.word_at (fun w hw => isWordChar_of_mem_vocabulary (hws w hw)) hpq.noWordBehind ht
      (inWord_getLast_of_append hbefore) hhead

theorem seeKnown_spelled {known : List Text} (hknown : ∀ w ∈ ws, w ∉ known) :
    Strategy.seeKnown known (p ++ t ++ q) c = none := by
  rw [Strategy.seeKnown, Option.filter_eq_none_iff]
  intro s hs' hcontains
  have hmem := touchingWord_spelled hs hws hpq hlow hhigh hs'
  exact hknown s.text hmem (by simpa using hcontains)

/-- The scan reaches the spelling, and finds all of it and the tail behind it. -/
theorem firstTouching_spelled :
    firstTouching readComposite (p ++ t ++ q) c =
      some (p.length, ⟨(), t.length + compositeTail q⟩) := by
  have hend := compositeEnd_spelled hs (keywordRun_of_vocabulary hws) hpq.noWordBehind hpq.noRunBehind
  have hword := hs.inWord_head (keywordRun_of_vocabulary hws) q
  rw [List.append_assoc]
  apply firstTouching_append
  · -- what is found in the text before the spelling ends before it
    intro passed rest hp hne earlier hread
    have hwidth := hpq.readComposite_lt hp hne hread
    rw [hp, List.length_append] at hlow
    omega
  · intro hnil
    rw [hnil] at hword
    exact Bool.false_ne_true hword
  · rw [readComposite_eq, hend, isBoundary, hpq.noWordBefore, hword]
    rfl
  · rw [Span.touches_iff]
    simp only [Found.span]
    omega

/-- **Specifiers that stand by themselves are seen**, single-spaced and with the tail behind them,
by every cursor on them. -/
theorem locate_spelled {known : List Text} (hplain : ∀ w ∈ ws, w ∉ aggregateKeywords)
    (hknown : ∀ w ∈ ws, w ∉ known) :
    locate known (p ++ t ++ q) c =
      some ⟨collapse (t ++ q.take (compositeTail q)),
        ⟨p.length, (p.length + (t.length + compositeTail q) : Nat)⟩⟩ := by
  have hcomposite : Strategy.seeComposite (p ++ t ++ q) c =
      some ⟨collapse (t ++ q.take (compositeTail q)),
        ⟨p.length, (p.length + (t.length + compositeTail q) : Nat)⟩⟩ := by
    show (firstTouching readComposite (p ++ t ++ q) c).map _ = _
    rw [firstTouching_spelled hs hws hpq hlow hhigh, Option.map_some]
    simp only [Found.slice, Found.span]
    rw [List.append_assoc, List.drop_left, List.take_length_add_append]
  simp only [locate, Strategy.all, List.findSome?_cons, Strategy.see,
    seeMention_spelled hs hws hpq hlow hhigh hplain,
    seeKnown_spelled hs hws hpq hlow hhigh hknown, hcomposite]

end See

end TypeLens
