/-
# TypeLens.Proofs.Locate.Absorption -- which words composite expressions take in

A composite expression is meant to take in vocabulary words and no other word of the line. Vocabulary
words need no blanks between them, though, and so a word that is a run of several of them, `intint`
say, is taken in as well.

Nothing else is: the words of a line that composite expressions take in are exactly the runs of
vocabulary words. A line on which they keep to the vocabulary is one in which every word that is such
a run is a vocabulary word itself. Both follow from what the scan finds: the tail of a group holds no
word (`LineGroup.keywordRun_of_word`), and every run lies in a group (`WordIn.exists_lineGroup`).
-/
import TypeLens.Proofs.Locate.Groups

namespace TypeLens

/-- A word behind `before` lies in the span of the sighting. -/
def Sighting.TakesIn (s : Sighting) (before word : Text) : Prop :=
  s.span.start ≤ before.length ∧ (before.length + word.length : Nat) ≤ s.span.stop

/-! ## Words of a group -/

theorem KeywordRun.one_lt_length {w : Text} (h : KeywordRun w) : 1 < w.length := by
  have hall : ∀ k ∈ vocabulary, 1 < k.length := by decide +kernel
  cases h with
  | one hk => exact hall _ hk
  | more hk hw =>
    rw [List.length_append]
    exact Nat.lt_add_right _ (hall _ hk)

/-- The words in the span of a group are words of the group, since its tail holds none. -/
theorem LineGroup.keywordRun_of_word {line before word behind : Text} (g : LineGroup line)
    (hword : WordIn line before word behind) (hlow : g.span.start ≤ before.length)
    (hhigh : (before.length + word.length : Nat) ≤ g.span.stop) : KeywordRun word := by
  have hpos := List.length_pos_of_ne_nil hword.ne_nil
  have hhead : inWord (word ++ behind).head? = true := by
    obtain ⟨c, rest, rfl⟩ := List.exists_cons_of_ne_nil hword.ne_nil
    exact hword.chars c (by simp)
  have htake := takeWhile_word_append hword.chars hword.right
  have hline := g.line_eq.symm.trans hword.line_eq
  rw [List.append_assoc] at hline
  simp only [LineGroup.span] at hlow hhigh
  -- the word begins behind `passed`, counted from the group
  obtain ⟨passed, rfl, hrest⟩ := exists_append_of_append_eq hline (Int.ofNat_le.mp hlow)
  rcases List.append_eq_append_iff.mp hrest with ⟨x, rfl, hbehind⟩ | ⟨y, hwords, htext⟩
  · -- it would begin in the tail
    exfalso
    have htail : compositeTail g.behind ≤ x.length := by
      rw [hbehind]
      exact compositeTail_le_of_word hhead
    rw [compositeTail_eq_groupTail g.isGroup.right] at htail
    simp only [List.length_append] at hhigh
    omega
  · obtain ⟨ws, hspelled, hws⟩ := g.isGroup.spelled
    rw [htext] at hhead htake
    have hmem := hspelled.word_at (fun w hw => (hws w hw).isWordChar) g.isGroup.right hwords
      (inWord_getLast_of_append hword.left) hhead
    rw [htake] at hmem
    exact hws word hmem

/-- A run of vocabulary words lies in a group. -/
theorem WordIn.exists_lineGroup {line before word behind : Text}
    (hword : WordIn line before word behind) (hrun : KeywordRun word) :
    ∃ g : LineGroup line, g.before.length ≤ before.length ∧
      before.length + word.length ≤ g.before.length + g.words.length := by
  have htake := takeWhile_word_append hword.chars hword.right
  obtain ⟨n, hn⟩ : ∃ n, compositeEnd (word ++ behind) = some n := by
    rw [← Option.isSome_iff_exists, compositeEnd_isSome_iff, htake]
    exact hrun
  obtain ⟨words, rest, htext, hspelled, hright, hnone, -⟩ := exists_spelled_of_compositeEnd hn
  -- the stretch does not end inside its first word
  have hle : word.length ≤ words.length := by
    rcases List.append_eq_append_iff.mp htext with ⟨x, rfl, -⟩ | ⟨y, rfl, rfl⟩
    · rw [List.length_append]
      omega
    · cases y with
      | nil => simp
      | cons c y =>
        have hc : inWord (some c) = true := hword.chars c (by simp)
        exact absurd (hright.symm.trans hc) Bool.false_ne_true
  obtain ⟨earlier, between, rfl, hgroup⟩ :=
    Stretch.exists_group ⟨hspelled, hword.left, hright, hnone⟩
  refine ⟨⟨earlier, between ++ words, rest, ?_, hgroup⟩, ?_, ?_⟩
  · rw [hword.line_eq, List.append_assoc, htext]
    simp only [List.append_assoc]
  · show earlier.length ≤ (earlier ++ between).length
    rw [List.length_append]
    omega
  · simp only [List.length_append]
    omega

/-! ## What is seen inside a group -/

theorem exists_lineGroup_of_see {known : List Text} {line : Text} {cursor : Int} {s : Sighting}
    (h : Strategy.composite.see known line cursor = some s) :
    ∃ g : LineGroup line, s.span = g.span ∧ g.span.touches cursor = true := by
  obtain ⟨e, hfirst, rfl⟩ := Option.map_eq_some_iff.mp h
  have htouch := List.find?_some hfirst
  obtain ⟨g, rfl⟩ := LineGroup.mem_occurrences_iff.mp (List.mem_of_find?_eq_some hfirst)
  exact ⟨g, rfl, htouch⟩

/-- A cursor that touches a group sees an expression, though not always that of the group. -/
theorem LineGroup.see_isSome {line : Text} (g : LineGroup line) (known : List Text) {cursor : Int}
    (htouch : g.span.touches cursor = true) :
    (Strategy.composite.see known line cursor).isSome = true := by
  have hsome : (firstTouching readComposite line cursor).isSome = true := by
    rw [firstTouching, List.find?_isSome]
    exact ⟨g.find, LineGroup.mem_occurrences_iff.mpr ⟨g, rfl⟩, htouch⟩
  show ((firstTouching readComposite line cursor).map _).isSome = true
  rwa [Option.isSome_map]

/-- A cursor between the ends of an expression touches no other one. -/
theorem LineGroup.exists_see {line : Text} (g : LineGroup line) (known : List Text) (cursor : Int)
    (hlow : g.span.start < cursor) (hhigh : cursor < g.span.stop) :
    ∃ s, Strategy.composite.see known line cursor = some s ∧ s.span = g.span := by
  obtain ⟨s, hsee⟩ := Option.isSome_iff_exists.mp
    (g.see_isSome known (Span.touches_iff.mpr ⟨hlow.le, hhigh.le⟩))
  obtain ⟨g', hspan, htouch⟩ := exists_lineGroup_of_see hsee
  obtain ⟨hstart, hstop⟩ := Span.touches_iff.mp htouch
  have hsame : g'.before.length = g.before.length := by
    rcases Nat.lt_trichotomy g'.before.length g.before.length with hlt | heq | hlt
    · have := LineGroup.stop_le_start hlt
      omega
    · exact heq
    · have := LineGroup.stop_le_start hlt
      omega
  exact ⟨s, hsee, by rw [hspan, LineGroup.eq_of_before hsame]⟩

theorem composite_takes_in_word {line before word behind : Text} (known : List Text)
    (hword : WordIn line before word behind) :
    (∃ cursor s, Strategy.composite.see known line cursor = some s ∧ s.TakesIn before word) ↔
      KeywordRun word := by
  constructor
  · rintro ⟨cursor, s, hsee, hlow, hhigh⟩
    obtain ⟨g, hspan, -⟩ := exists_lineGroup_of_see hsee
    rw [hspan] at hlow hhigh
    exact g.keywordRun_of_word hword hlow hhigh
  · intro hrun
    obtain ⟨g, hlow, hhigh⟩ := hword.exists_lineGroup hrun
    have hlength := hrun.one_lt_length
    have hstart : g.span.start ≤ before.length := by
      simp only [LineGroup.span]
      omega
    have hstop : (before.length + word.length : Nat) ≤ g.span.stop := by
      simp only [LineGroup.span]
      omega
    obtain ⟨s, hsee, hspan⟩ := g.exists_see known (before.length + 1) (by omega) (by omega)
    exact ⟨_, s, hsee, by rw [hspan]; exact hstart, by rw [hspan]; exact hstop⟩

/-- **Composite expressions take in runs of vocabulary words and no other words.** So they keep to
the vocabulary on a line if and only if each word of the line that is a run of vocabulary words is
a vocabulary word itself. -/
theorem composite_takes_in_iff (known : List Text) (line : Text) :
    (∀ before word behind, WordIn line before word behind →
      ((∃ cursor s, Strategy.composite.see known line cursor = some s ∧ s.TakesIn before word) ↔
        KeywordRun word)) ∧
    ((∀ cursor s, Strategy.composite.see known line cursor = some s →
        ∀ before word behind, WordIn line before word behind → s.TakesIn before word →
          word ∈ vocabulary) ↔
      ∀ before word behind, WordIn line before word behind → KeywordRun word →
        word ∈ vocabulary) := by
  refine ⟨fun _ _ _ hword => composite_takes_in_word known hword, ?_, ?_⟩
  · intro hkeeps before word behind hword hrun
    obtain ⟨cursor, s, hsee, htakes⟩ := (composite_takes_in_word known hword).mpr hrun
    exact hkeeps cursor s hsee before word behind hword htakes
  · intro hwords cursor s hsee before word behind hword htakes
    exact hwords before word behind hword
      ((composite_takes_in_word known hword).mp ⟨cursor, s, hsee, htakes⟩)

/-- In `const foo int8_t x`, expressions take in the keyword and the alias, but not the name between
them. -/
theorem composite_takes_in_around_name :
    let line := "const foo int8_t x".toList
    (∃ cursor s, Strategy.composite.see [] line cursor = some s ∧
      s.TakesIn "const foo ".toList "int8_t".toList) ∧
    ¬ ∃ cursor s, Strategy.composite.see [] line cursor = some s ∧
      s.TakesIn "const ".toList "foo".toList := by
  intro line
  have halias : WordIn line "const foo ".toList "int8_t".toList " x".toList :=
    ⟨by decide, by decide, List.all_eq_true.mp (by decide), by decide, by decide⟩
  have hname : WordIn line "const ".toList "foo".toList " int8_t x".toList :=
    ⟨by decide, by decide, List.all_eq_true.mp (by decide), by decide, by decide⟩
  obtain ⟨htakes, -⟩ := composite_takes_in_iff [] line
  constructor
  · exact (htakes _ _ _ halias).mpr (.one (by decide +kernel))
  · rw [htakes _ _ _ hname]
    decide +kernel

/-- **A word that is no vocabulary word is taken in.** It is two of them without a blank between
them. -/
theorem composite_takes_nonword :
    let line := "intint x".toList
    ∃ s, Strategy.composite.see [] line 2 = some s ∧ WordIn line [] "intint".toList " x".toList ∧
      s.TakesIn [] "intint".toList ∧ "intint".toList ∉ vocabulary := by
  intro line
  have hsee : Strategy.composite.see [] line 2 = some ⟨"intint".toList, ⟨0, 7⟩⟩ := by decide +kernel
  have hword : WordIn line [] "intint".toList " x".toList :=
    ⟨by decide, by decide, List.all_eq_true.mp (by decide), rfl, by decide⟩
  exact ⟨_, hsee, hword, ⟨by decide, by decide⟩, by decide +kernel⟩

end TypeLens
