/-
# TypeLens.Proofs.Locate.Groups -- composite expressions are groups of vocabulary words

Words of a line that are runs of vocabulary words form groups: neighbours belong together when there
is nothing but blanks between them. The scan finds one composite expression for each group and
nothing else. An expression starts with its group; behind the group it takes stars that a word
follows directly, or else blanks that a word follows (`groupTail`).

What is read at a single place is a stretch of such words that goes as far to the right as it can
(`readComposite_iff`); there is one at most (`Stretch.unique`). It need not be a whole group, since a
reader does not see the words before its place. But the scan goes from left to right, and a stretch
that is not a group ends one (`Stretch.exists_group`), while no expression reaches a word behind its
group (`VocabularyGroup.apart`). So the groups are the anchors of the scan.
-/
import Mathlib.Data.Set.List
import TypeLens.Proofs.Locate.Soundness

namespace TypeLens

/-! ## Groups -/

/-- Runs of vocabulary words with only blanks between them. -/
def SpelledRuns (text : Text) : Prop := ∃ ws, Spelled ws text ∧ ∀ w ∈ ws, KeywordRun w

theorem SpelledRuns.one {w : Text} (hw : KeywordRun w) : SpelledRuns w :=
  ⟨[w], .one w, by simpa using hw⟩

theorem SpelledRuns.more {w gap text : Text} (hw : KeywordRun w) (hne : gap ≠ [])
    (hgap : ∀ c ∈ gap, isBlank c = true) (h : SpelledRuns text) :
    SpelledRuns (w ++ gap ++ text) := by
  obtain ⟨ws, hspelled, hws⟩ := h
  exact ⟨w :: ws, .more w hne hgap hspelled, List.forall_mem_cons.mpr ⟨hw, hws⟩⟩

/-- The words between `before` and `behind` are runs of vocabulary words with only blanks between
them, and no further one follows. -/
structure Stretch (before words behind : Text) : Prop where
  spelled : SpelledRuns words
  left : inWord before.getLast? = false
  right : inWord behind.head? = false
  noneBehind : ¬ KeywordRun (firstWord behind)

/-- A stretch with no further run of vocabulary words before it either. -/
structure VocabularyGroup (before words behind : Text) : Prop
    extends Stretch before words behind where
  noneBefore : ¬ KeywordRun (lastWord before)

/-- How many characters behind a group belong to its expression. -/
def groupTail (behind : Text) : Nat :=
  let gap := behind.takeWhile isBlank
  let afterGap := behind.dropWhile isBlank
  let stars := afterGap.takeWhile (· == '*')
  -- up to a word directly behind the stars, else up to a word behind blanks, else nothing
  if stars ≠ [] ∧ inWord (afterGap.dropWhile (· == '*')).head? then gap.length + stars.length
  else if gap ≠ [] ∧ inWord afterGap.head? then gap.length
  else 0

theorem compositeTail_eq_groupTail {behind : Text} (h : inWord behind.head? = false) :
    compositeTail behind = groupTail behind := by
  simp only [compositeTail, groupTail, runLength]
  cases hafter : behind.dropWhile isBlank with
  | nil => simp [inWord]
  | cons c rest =>
    by_cases hstar : (c == '*') = true
    · -- behind blanks and stars
      have hnot : inWord (c :: rest).head? = false := inWord_of_star hstar
      rw [hnot]
      simp [hstar]
    · -- behind blanks only, if there are any
      rw [List.takeWhile_cons_of_neg (p := (· == '*')) hstar,
        List.dropWhile_cons_of_neg (p := (· == '*')) hstar]
      cases hword : inWord (c :: rest).head? with
      | false => simp
      | true =>
        have hgap := blanks_ne_nil h (by rw [hafter, hword])
        rw [if_pos rfl, if_neg (by simp), if_pos ⟨hgap, rfl⟩, List.length_nil, Nat.add_zero]

/-- No word character is among those that follow the group. -/
theorem inWord_of_lt_compositeTail {behind : Text} {i : Nat} (h : i < compositeTail behind) :
    inWord behind[i]? = false := by
  rw [compositeTail] at h
  split at h
  · by_cases hi : i < runLength isBlank behind
    · obtain ⟨c, hc, hblank⟩ := getElem?_of_lt_runLength behind i hi
      rw [hc, inWord_of_blank hblank]
    · obtain ⟨c, hc, hstar⟩ := getElem?_of_lt_runLength (p := (· == '*'))
        (behind.dropWhile isBlank) (i - runLength isBlank behind) (by omega)
      rw [← drop_runLength, List.getElem?_drop, Nat.add_sub_cancel' (by omega)] at hc
      rw [hc, inWord_of_star hstar]
  · exact absurd h (Nat.not_lt_zero i)

/-- The tail ends where a word begins, at the latest. -/
theorem compositeTail_le_of_word {x rest : Text} (h : inWord rest.head? = true) :
    compositeTail (x ++ rest) ≤ x.length := by
  by_contra hlt
  have hnot := inWord_of_lt_compositeTail (Nat.not_le.mp hlt)
  rw [List.getElem?_append_right (Nat.le_refl _), Nat.sub_self, ← List.head?_eq_getElem?,
    h] at hnot
  exact Bool.false_ne_true hnot.symm

/-! ## What is read at a place -/

/-- A composite expression is a run of vocabulary words, and what follows it. -/
theorem exists_run_of_compositeEnd {text : Text} {n : Nat} (h : compositeEnd text = some n) :
    ∃ w rest m, text = w ++ rest ∧ KeywordRun w ∧ inWord rest.head? = false ∧
      endBehind rest = some m ∧ n = w.length + m := by
  obtain ⟨m, hm, hn⟩ := exists_endBehind_of_compositeEnd h
  exact ⟨_, _, m, List.takeWhile_append_dropWhile.symm, keywordRun_of_compositeEnd h,
    inWord_head_dropWhile text, hm, hn⟩

/-- The words that are read are followed by no further one. -/
theorem exists_spelled_of_compositeEnd {text : Text} {n : Nat} (h : compositeEnd text = some n) :
    ∃ words behind, text = words ++ behind ∧ SpelledRuns words ∧
      inWord behind.head? = false ∧ ¬ KeywordRun (firstWord behind) ∧
      n = words.length + compositeTail behind := by
  obtain ⟨w, rest, m, htext, hrun, hhead, hm, rfl⟩ := exists_run_of_compositeEnd h
  rw [endBehind, if_neg (by simp [hhead])] at hm
  cases hnext : compositeEnd (rest.dropWhile isBlank) with
  | none =>
    rw [hnext, Option.map_none, Option.none_or] at hm
    refine ⟨w, rest, htext, .one hrun, hhead, ?_, ?_⟩
    · rw [← Option.not_isSome_iff_eq_none, compositeEnd_isSome_iff] at hnext
      exact hnext
    · rw [Option.some.inj hm]
  | some j =>
    rw [hnext, Option.map_some, Option.some_or] at hm
    have hshorter : (rest.dropWhile isBlank).length < text.length := by
      have hpos := List.length_pos_of_ne_nil hrun.ne_nil
      have hblanks := runLength_add_length isBlank rest
      rw [htext, List.length_append]
      omega
    obtain ⟨words, behind, hwords, hspelled, hright, hnone, rfl⟩ :=
      exists_spelled_of_compositeEnd hnext
    have hgap := blanks_ne_nil hhead (inWord_head_of_compositeEnd hnext)
    refine ⟨w ++ rest.takeWhile isBlank ++ words, behind, ?_, .more hrun hgap ?_ hspelled, hright,
      hnone, ?_⟩
    · rw [List.append_assoc, ← hwords, List.append_assoc, List.takeWhile_append_dropWhile, htext]
    · intro c hc
      exact List.mem_takeWhile_imp hc
    · rw [← Option.some.inj hm, List.length_append, List.length_append, runLength]
      omega
termination_by text.length

namespace Stretch

variable {before words behind : Text}

theorem inWord_head (h : Stretch before words behind) (rest : Text) :
    inWord (words ++ rest).head? = true := by
  obtain ⟨ws, hspelled, hws⟩ := h.spelled
  exact hspelled.inWord_head hws rest

/-- The last word of a stretch reaches its end. -/
theorem inWord_last (h : Stretch before words behind) : inWord words.getLast? = true := by
  obtain ⟨ws, hspelled, hws⟩ := h.spelled
  obtain ⟨c, hlast, hc⟩ := hspelled.exists_last (p := isWordChar) fun w hw =>
    ⟨(hws w hw).ne_nil, (hws w hw).isWordChar⟩
  rw [hlast]
  exact hc

theorem length_pos (h : Stretch before words behind) : 0 < words.length := by
  apply List.length_pos_of_ne_nil
  rintro rfl
  exact Bool.false_ne_true h.inWord_last

theorem compositeEnd_eq (h : Stretch before words behind) :
    compositeEnd (words ++ behind) = some (words.length + compositeTail behind) := by
  obtain ⟨ws, hspelled, hws⟩ := h.spelled
  exact compositeEnd_spelled hspelled hws h.right h.noneBehind

end Stretch

/-- **What is read at a place**: the stretch that begins there, and its tail. -/
theorem readComposite_iff {before rest : Text} {found : Found Unit} :
    readComposite before.getLast? rest = some found ↔
      ∃ words behind, rest = words ++ behind ∧ Stretch before words behind ∧
        found = ⟨(), words.length + compositeTail behind⟩ := by
  constructor
  · intro h
    obtain ⟨hleft, hend⟩ := readComposite_eq_some h
    obtain ⟨words, behind, hrest, hspelled, hright, hnone, hwidth⟩ :=
      exists_spelled_of_compositeEnd hend
    refine ⟨words, behind, hrest, ⟨hspelled, hleft, hright, hnone⟩, ?_⟩
    rw [← hwidth]
  · rintro ⟨words, behind, rfl, hstretch, rfl⟩
    rw [readComposite_eq, hstretch.compositeEnd_eq, isBoundary, hstretch.left,
      hstretch.inWord_head behind]
    rfl

namespace Stretch

section

variable {before before' words words' behind behind' : Text}

/-- The last word of a stretch cannot lie in the tail of a shorter one. -/
theorem length_le (h : Stretch before words behind) (h' : Stretch before' words' behind')
    (htext : words ++ behind = words' ++ behind') : words'.length ≤ words.length := by
  by_contra hlt
  have hpos := h'.length_pos
  have hsum : words.length + compositeTail behind = words'.length + compositeTail behind' := by
    have hend := h.compositeEnd_eq
    rw [htext, h'.compositeEnd_eq] at hend
    exact (Option.some.inj hend).symm
  have hlast := h'.inWord_last
  have htail : inWord behind[words'.length - 1 - words.length]? = false :=
    inWord_of_lt_compositeTail (by omega)
  rw [← List.getElem?_append_right (by omega), htext, List.getElem?_append_left (by omega),
    ← List.getLast?_eq_getElem?, hlast] at htail
  exact Bool.false_ne_true htail.symm

/-- One stretch at most begins at a place. -/
theorem unique (h : Stretch before words behind) (h' : Stretch before' words' behind')
    (htext : words ++ behind = words' ++ behind') : words = words' ∧ behind = behind' :=
  List.append_inj htext
    (Nat.le_antisymm (h'.length_le h htext.symm) (h.length_le h' htext))

end

/-- Every stretch ends a group. -/
theorem exists_group {before words behind : Text} (h : Stretch before words behind) :
    ∃ earlier between, before = earlier ++ between ∧
      VocabularyGroup earlier (between ++ words) behind := by
  by_cases hrun : KeywordRun (lastWord before)
  · -- one more word belongs to the stretch
    obtain ⟨a, gap, hsplit, ha, hgap⟩ := exists_lastWord before
    have hne : gap ≠ [] := by
      rintro rfl
      have hleft := h.left
      rw [List.append_nil] at hsplit
      rw [hsplit, List.getLast?_append_of_ne_nil _ hrun.ne_nil,
        List.getLast?_eq_some_getLast hrun.ne_nil] at hleft
      exact Bool.false_ne_true (hleft.symm.trans (hrun.isWordChar _ (List.getLast_mem _)))
    have hshorter : a.length < before.length := by
      have hlength := congrArg List.length hsplit
      have := List.length_pos_of_ne_nil hne
      simp only [List.length_append] at hlength
      omega
    have hlonger : Stretch a (lastWord before ++ gap ++ words) behind :=
      ⟨.more hrun hne hgap h.spelled, ha, h.right, h.noneBehind⟩
    obtain ⟨earlier, between, hbetween, hgroup⟩ := hlonger.exists_group
    refine ⟨earlier, between ++ lastWord before ++ gap, ?_, ?_⟩
    · simp only [← List.append_assoc, ← hbetween]
      exact hsplit
    · simpa only [List.append_assoc] using hgroup
  · exact ⟨before, [], by rw [List.append_nil], ⟨h, hrun⟩⟩
termination_by before.length

end Stretch

/-! ## The groups of a line -/

/-- The word before a place inside a spelling, blanks apart, is one of its words. -/
theorem Spelled.lastWord_at {ws : List Text} {t q a t₁ t₂ : Text} (h : Spelled ws t)
    (hws : ∀ w ∈ ws, KeywordRun w) (ha : inWord a.getLast? = false) (ht : t = t₁ ++ t₂)
    (hne : t₁ ≠ []) (hbefore : inWord t₁.getLast? = false)
    (hhead : inWord (t₂ ++ q).head? = true) : lastWord (a ++ t₁) ∈ ws := by
  induction h generalizing a t₁ with
  | one w => exact absurd (eq_nil_of_word_append (hws w (by simp)).isWordChar ht hbefore) hne
  | @more ws gap t w hgap hblank rest ih =>
    have hw := hws w (by simp)
    rcases place_behind_word hw.isWordChar hgap hblank ht hbefore hhead with rfl | ⟨b, rfl, ht'⟩
    · exact absurd rfl hne
    · by_cases hnil : b = []
      · subst hnil
        rw [List.append_nil, ← List.append_assoc, lastWord_append ha hw.isWordChar hw.ne_nil hblank]
        simp
      · have hlast : inWord (a ++ (w ++ gap)).getLast? = false := by
          rw [← List.append_assoc]
          exact inWord_getLast_blanks _ hgap hblank
        rw [← List.append_assoc]
        apply List.mem_cons_of_mem
        exact ih (fun v hv => hws v (List.mem_cons_of_mem _ hv)) hlast ht' hnil
          (inWord_getLast_of_append hbefore)

/-- The expression of a group ends before the next group. -/
theorem VocabularyGroup.apart {before between words words' behind behind' : Text}
    (h : VocabularyGroup before words behind)
    (h' : VocabularyGroup (before ++ between) words' behind') (hne : between ≠ [])
    (htext : words ++ behind = between ++ (words' ++ behind')) :
    words.length + compositeTail behind ≤ between.length := by
  have hhead := h'.inWord_head behind'
  rcases List.append_eq_append_iff.mp htext with ⟨x, rfl, rfl⟩ | ⟨y, rfl, hrest⟩
  · rw [List.length_append, Nat.add_le_add_iff_left]
    exact compositeTail_le_of_word hhead
  · -- a group that begins among the words would have one of them before it
    exfalso
    obtain ⟨ws, hspelled, hws⟩ := h.spelled
    rw [hrest] at hhead
    have hmem := hspelled.lastWord_at hws h.left rfl hne (inWord_getLast_of_append h'.left) hhead
    exact h'.noneBefore (hws _ hmem)

/-- A group of vocabulary words begins between `before` and `rest`, and `found` is as wide as its
expression. -/
def GroupAt (before rest : Text) (found : Found Unit) : Prop :=
  ∃ words behind, rest = words ++ behind ∧ VocabularyGroup before words behind ∧
    found = ⟨(), words.length + compositeTail behind⟩

/-- **The scan stops at groups.** -/
theorem composite_anchors : Anchors readComposite GroupAt where
  ne_nil := by
    rintro before _ _ ⟨words, behind, rfl, hgroup, -⟩ hnil
    have hpos := hgroup.length_pos
    rw [(List.append_eq_nil_iff.mp hnil).1] at hpos
    exact absurd hpos (Nat.lt_irrefl 0)
  reads := by
    rintro before _ _ ⟨words, behind, rfl, hgroup, rfl⟩
    exact readComposite_iff.mpr ⟨words, behind, rfl, hgroup.toStretch, rfl⟩
  covers := by
    intro before rest found hread
    obtain ⟨words, behind, rfl, hstretch, -⟩ := readComposite_iff.mp hread
    obtain ⟨earlier, between, hbefore, hgroup⟩ := hstretch.exists_group
    refine ⟨earlier, between, _, hbefore, ⟨between ++ words, behind, ?_, hgroup, rfl⟩, ?_⟩
    · rw [List.append_assoc]
    · have hpos := hstretch.length_pos
      show between.length < (between ++ words).length + compositeTail behind
      rw [List.length_append]
      omega
  apart := by
    rintro before between _ _ _ ⟨words, behind, htext, hgroup, rfl⟩ hne
      ⟨words', behind', rfl, hgroup', rfl⟩
    exact hgroup.apart hgroup' hne htext.symm

/-- A group of vocabulary words in a line, with what is before it and behind it. -/
structure LineGroup (line : Text) where
  before : Text
  words : Text
  behind : Text
  line_eq : line = before ++ (words ++ behind)
  isGroup : VocabularyGroup before words behind

namespace LineGroup

variable {line : Text}

/-- The expression of a group: it starts with the group and takes the tail behind it. -/
def span (g : LineGroup line) : Span :=
  ⟨g.before.length, (g.before.length + (g.words.length + groupTail g.behind) : Nat)⟩

/-- The expression of a group as the scan finds it. -/
def find (g : LineGroup line) : Nat × Found Unit :=
  (g.before.length, ⟨(), g.words.length + groupTail g.behind⟩)

theorem mem_occurrences_iff {e : Nat × Found Unit} :
    e ∈ occurrences readComposite line ↔ ∃ g : LineGroup line, g.find = e := by
  rw [composite_anchors.mem_occurrences_iff]
  constructor
  · rintro ⟨before, _, hline, hp, words, behind, rfl, hgroup, hfound⟩
    refine ⟨⟨before, words, behind, hline, hgroup⟩, Prod.ext hp.symm ?_⟩
    rw [hfound, compositeTail_eq_groupTail hgroup.right]
    rfl
  · rintro ⟨g, rfl⟩
    refine ⟨g.before, _, g.line_eq, rfl, g.words, g.behind, rfl, g.isGroup, ?_⟩
    rw [compositeTail_eq_groupTail g.isGroup.right]
    rfl

/-- A group is known by its place. -/
theorem eq_of_before {g h : LineGroup line} (hlength : g.before.length = h.before.length) :
    g = h := by
  obtain ⟨before, words, behind, hline, hgroup⟩ := g
  obtain ⟨before', words', behind', rfl, hgroup'⟩ := h
  obtain ⟨rfl, htext⟩ := List.append_inj hline hlength.symm
  obtain ⟨rfl, rfl⟩ := hgroup.toStretch.unique hgroup'.toStretch htext.symm
  rfl

theorem find_injective : Function.Injective (find : LineGroup line → Nat × Found Unit) := by
  intro g h heq
  exact eq_of_before (congrArg Prod.fst heq)

/-- Of two groups of a line, the expression of the one ends before the other begins. -/
theorem stop_le_start {g h : LineGroup line} (hlt : g.before.length < h.before.length) :
    g.span.stop ≤ h.span.start := by
  obtain ⟨between, hbetween, htext⟩ :=
    exists_append_of_append_eq (g.line_eq.symm.trans h.line_eq) hlt.le
  have hne : between ≠ [] := by
    rintro rfl
    rw [hbetween, List.append_nil] at hlt
    exact Nat.lt_irrefl _ hlt
  have hgroup := h.isGroup
  rw [hbetween] at hgroup
  have hend := g.isGroup.apart hgroup hne htext
  rw [compositeTail_eq_groupTail g.isGroup.right] at hend
  simp only [span, hbetween, List.length_append]
  omega

end LineGroup

theorem Found.slice_eq_slice_span {α : Type} (found : Found α) (start : Nat) (line : Text) :
    found.slice start line = (found.span start).slice line := by
  show (line.drop start).take found.width = (line.take (start + found.width)).drop start
  rw [List.drop_take, Nat.add_sub_cancel_left]

/-- **Composite expressions are the groups of vocabulary words.** The scan finds one span for each
group of the line, in order, and nothing else. What is seen at a cursor is the first of these spans
that the cursor touches, single-spaced. -/
theorem composite_finds_groups (line : Text) :
    ∃ groups : List (LineGroup line), (∀ g, g ∈ groups) ∧
      groups.Pairwise (fun g h => g.span.stop ≤ h.span.start) ∧
      (occurrences readComposite line).map (fun e => e.2.span e.1) = groups.map LineGroup.span ∧
      ∀ known cursor, Strategy.composite.see known line cursor =
        ((groups.map LineGroup.span).find? (·.touches cursor)).map fun span =>
          ⟨collapse (span.slice line), span⟩ := by
  obtain ⟨groups, hgroups⟩ : ∃ groups : List (LineGroup line),
      groups.map LineGroup.find = occurrences readComposite line := by
    rw [← Set.mem_range, Set.range_list_map]
    exact fun e he => LineGroup.mem_occurrences_iff.mp he
  have hspans : (occurrences readComposite line).map (fun e => e.2.span e.1) =
      groups.map LineGroup.span := by
    rw [← hgroups, List.map_map]
    rfl
  refine ⟨groups, ?_, ?_, hspans, ?_⟩
  · intro g
    have hmem : g.find ∈ groups.map LineGroup.find := by
      rw [hgroups]
      exact LineGroup.mem_occurrences_iff.mpr ⟨g, rfl⟩
    exact (List.mem_map_of_injective LineGroup.find_injective).mp hmem
  · have hsorted := pairwise_occurrencesFrom readComposite 0 none 0 line
    rw [← occurrences, ← hgroups, List.pairwise_map] at hsorted
    exact hsorted.imp LineGroup.stop_le_start
  · intro known cursor
    rw [← hspans, List.find?_map, Option.map_map]
    show (firstTouching readComposite line cursor).map _ = _
    refine congrArg (fun f => (firstTouching readComposite line cursor).map f) ?_
    funext e
    simp only [Function.comp_apply, Found.slice_eq_slice_span]

/-- Stars with a word directly behind them belong to the first span, the others to none. -/
example : (occurrences readComposite "const  char **p, long * q".toList).map
    (fun e => e.2.span e.1) = [⟨0, 14⟩, ⟨17, 21⟩] := by decide +kernel

end TypeLens
