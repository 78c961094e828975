/-
# TypeLens.Proofs.Locate.WordAtCursor -- what the word at a cursor decides

Two laws about cursors and words. A word at the cursor that is a vocabulary word lies in a group, so
a composite expression is seen there too, and the strategy for lone keywords never has the last word
(`lone_keyword_never_decides`). And all cursors in a word see the same, from behind its first
character to directly behind its last (`locate_within_word`): the spans that strategies look at start
with a word and end inside none (`Span.Whole`), so such a span is touched by all these cursors or by
none of them.

The place directly before a word is left out of the second law. The expression before it may end
there, and a cursor on that place sees that expression.
-/
import Mathlib.Data.List.Find
import TypeLens.Layout
import TypeLens.Proofs.Locate.Absorption

namespace TypeLens

/-! ## Lone keywords -/

/-- Where a lone keyword is seen, so is a composite expression. -/
theorem composite_isSome_of_loneKeyword {known : List Text} {line : Text} {cursor : Int}
    (h : (Strategy.loneKeyword.see known line cursor).isSome = true) :
    (Strategy.composite.see known line cursor).isSome = true := by
  obtain ⟨s, hsee⟩ := Option.isSome_iff_exists.mp h
  obtain ⟨htouching, hkeyword⟩ := Option.filter_eq_some_iff.mp hsee
  obtain ⟨before, behind, hword, hspan, htouch⟩ := wordIn_of_touchingWord htouching
  have hrun : KeywordRun s.text := .one (by simpa using hkeyword)
  obtain ⟨g, hlow, hhigh⟩ := hword.exists_lineGroup hrun
  -- the cursor touches the word, and the word lies in the group
  rw [hspan, Span.touches_iff] at htouch
  simp only [Cut.span] at htouch
  apply g.see_isSome known
  rw [Span.touches_iff]
  simp only [LineGroup.span]
  omega

/-- **The last strategy never decides.** Where it sees a keyword, the strategy for composite
expressions sees one of those, and so the first three strategies locate the same without it. -/
theorem lone_keyword_never_decides (known : List Text) (line : Text) (cursor : Int) :
    ((Strategy.loneKeyword.see known line cursor).isSome = true →
      (Strategy.composite.see known line cursor).isSome = true) ∧
    locate known line cursor =
      [Strategy.aggregateMention, .knownName, .composite].findSome?
        (Strategy.see known line cursor) := by
  refine ⟨composite_isSome_of_loneKeyword, ?_⟩
  have hall : Strategy.all =
      [Strategy.aggregateMention, .knownName, .composite] ++ [.loneKeyword] := rfl
  rw [locate, hall, List.findSome?_append]
  cases hfirst : [Strategy.aggregateMention, .knownName, .composite].findSome?
      (Strategy.see known line cursor) with
  | some s => rfl
  | none =>
    -- no composite expression is seen, hence no lone keyword
    have hcomposite := List.findSome?_eq_none_iff.mp hfirst .composite (by simp)
    have hlone : Strategy.loneKeyword.see known line cursor = none := by
      rw [← Option.not_isSome_iff_eq_none]
      intro hsome
      have := composite_isSome_of_loneKeyword hsome
      rw [hcomposite] at this
      exact Bool.false_ne_true this
    rw [Option.none_or, List.findSome?_singleton, hlone]

/-- Between stars and a keyword, the keyword is what the last strategy sees, and the expression that
ends with the stars is what is located. -/
theorem locate_between_stars_and_keyword :
    let line := "char **const p".toList
    Strategy.loneKeyword.see [] line 7 = some ⟨"const".toList, ⟨7, 12⟩⟩ ∧
      (Strategy.composite.see [] line 7).isSome = true ∧
      locate [] line 7 = some ⟨"char **".toList, ⟨0, 7⟩⟩ := by
  intro line
  have hlone : Strategy.loneKeyword.see [] line 7 = some ⟨"const".toList, ⟨7, 12⟩⟩ := by
    decide +kernel
  obtain ⟨hcomposite, hlocate⟩ := lone_keyword_never_decides [] line 7
  refine ⟨hlone, hcomposite (by rw [hlone]; rfl), ?_⟩
  rw [hlocate]
  decide +kernel

/-! ## Spans of whole words -/

namespace WordIn

variable {text before word behind : Text}

theorem inWord_getElem? (h : WordIn text before word behind) {i : Nat} (hlow : before.length ≤ i)
    (hhigh : i < before.length + word.length) : inWord text[i]? = true := by
  have hi : i - before.length < word.length := by omega
  rw [h.line_eq, List.append_assoc, List.getElem?_append_right hlow,
    List.getElem?_append_left hi, List.getElem?_eq_getElem hi]
  exact h.chars _ (List.getElem_mem hi)

/-- No word starts inside another one or directly behind it. -/
theorem not_wordStartsAt (h : WordIn text before word behind) {offset : Int}
    (hlow : before.length < offset) (hhigh : offset ≤ before.length + word.length) :
    ¬ WordStartsAt text offset := by
  rintro ⟨before', word', behind', h', rfl⟩
  have hleft := h'.left
  have hlast : before'.getLast? = text[before'.length - 1]? := by
    rw [h'.line_eq, List.append_assoc, List.getElem?_append_left (by omega),
      List.getLast?_eq_getElem?]
  rw [hlast, h.inWord_getElem? (by omega) (by omega)] at hleft
  exact Bool.false_ne_true hleft.symm

end WordIn

/-- The span starts with a word of the line and does not end inside one. -/
structure Span.Whole (line : Text) (span : Span) : Prop where
  startsWord : WordStartsAt line span.start
  stop_not_inside : ¬ InsideWord line span.stop

theorem Cut.whole {line before piece behind : Text} (h : Cut line before piece behind) :
    (Cut.span before piece).Whole line := by
  have htouch : (Cut.span before piece).touches before.length = true := by
    rw [Span.touches_iff]
    simp only [Cut.span]
    omega
  have hsound := h.sound htouch
  exact ⟨hsound.startsWord, hsound.stop_not_inside⟩

theorem Found.CutOut.whole {α : Type} {found : Found α} {start : Nat} {line : Text}
    (h : found.CutOut start line) : (found.span start).Whole line := by
  obtain ⟨before, behind, hcut, hspan⟩ := h
  rw [hspan]
  exact hcut.whole

/-! ## Cursors in one word -/

/-- The cursors lie in one word of the line, behind its first character or further on. -/
def InOneWord (line : Text) (c c' : Int) : Prop :=
  ∃ before word behind, WordIn line before word behind ∧
    (before.length < c ∧ c ≤ before.length + word.length) ∧
    (before.length < c' ∧ c' ≤ before.length + word.length)

section Cursors

variable {line : Text} {c c' : Int} (hcc : InOneWord line c c')

include hcc

/-- A span of whole words is touched by both cursors or by neither. -/
theorem Span.Whole.touches_eq {span : Span} (h : span.Whole line) :
    span.touches c = span.touches c' := by
  obtain ⟨before, word, behind, hword, hc, hc'⟩ := hcc
  have hstart : span.start ≤ before.length ∨ before.length + word.length < span.start := by
    by_contra hinside
    exact hword.not_wordStartsAt (by omega) (by omega) h.startsWord
  have hstop : span.stop ≤ before.length ∨ before.length + word.length ≤ span.stop := by
    by_contra hinside
    exact h.stop_not_inside ⟨before, word, behind, hword, by omega, by omega⟩
  rw [Bool.eq_iff_iff, Span.touches_iff, Span.touches_iff]
  omega

theorem firstTouching_congr {α : Type} {read : Reader α}
    (h : ∀ p found, (p, found) ∈ occurrences read line → (found.span p).Whole line) :
    firstTouching read line c = firstTouching read line c' := by
  apply List.find?_congr
  rintro ⟨p, found⟩ hmem
  exact (h p found hmem).touches_eq hcc

theorem touchingWord_congr : touchingWord line c = touchingWord line c' := by
  rw [touchingWord_eq, touchingWord_eq, firstTouching_congr hcc]
  intro p found hmem
  obtain ⟨before, behind, hword, hspan⟩ := wordIn_of_mem_occurrences hmem
  rw [hspan]
  exact hword.cut.whole

theorem seeComposite_congr : Strategy.seeComposite line c = Strategy.seeComposite line c' := by
  have hfirst : firstTouching readComposite line c = firstTouching readComposite line c' :=
    firstTouching_congr hcc fun p found hmem => (cutOut_of_mem_composite hmem).whole
  exact congrArg (Option.map _) hfirst

/-- The name of a mention is a word, so both cursors are on it or neither is. -/
theorem seeMention_congr : Strategy.seeMention line c = Strategy.seeMention line c' := by
  have hfirst : firstTouching readMention line c = firstTouching readMention line c' :=
    firstTouching_congr hcc fun p found hmem => (cutOut_of_mem_mention hmem).1.whole
  rw [seeMention_eq, seeMention_eq, ← hfirst]
  apply Option.map_congr
  rintro ⟨p, found⟩ he
  obtain ⟨-, before, behind, hword, hspan⟩ :=
    cutOut_of_mem_mention (List.mem_of_find?_eq_some he)
  have hname : (found.nameSpan p).touches c = (found.nameSpan p).touches c' := by
    rw [hspan]
    exact hword.cut.whole.touches_eq hcc
  simp only [Found.seen, hname]

theorem see_congr (known : List Text) (s : Strategy) : s.see known line c = s.see known line c' := by
  cases s with
  | aggregateMention => exact seeMention_congr hcc
  | knownName => exact congrArg (Option.filter _) (touchingWord_congr hcc)
  | composite => exact seeComposite_congr hcc
  | loneKeyword => exact congrArg (Option.filter _) (touchingWord_congr hcc)

theorem locate_congr (known : List Text) : locate known line c = locate known line c' := by
  have hsee : Strategy.see known line c = Strategy.see known line c' := by
    funext s
    exact see_congr hcc known s
  rw [locate, locate, hsee]

end Cursors

/-- **What is seen is stable within a word.** Any two cursors behind the first character of a word,
up to the one directly behind its last character, locate the same expression, and the layout there is
the same whatever sizes are known and for either width. -/
theorem locate_within_word {line before word behind : Text}
    (hword : WordIn line before word behind) (known : List Text) {c c' : Int}
    (hc : before.length < c ∧ c ≤ before.length + word.length)
    (hc' : before.length < c' ∧ c' ≤ before.length + word.length) :
    locate known line c = locate known line c' ∧
      ∀ width sizes, Layout.atCursor? width known sizes line c =
        Layout.atCursor? width known sizes line c' := by
  have hlocate := locate_congr ⟨before, word, behind, hword, hc, hc'⟩ known
  refine ⟨hlocate, ?_⟩
  intro width sizes
  rw [Layout.atCursor?_eq, Layout.atCursor?_eq, hlocate]

/-- Inside `volatile` and directly behind it the qualifier is seen, but directly before it the
mention that ends with the star. -/
theorem locate_within_qualifier :
    let line := "struct Node *volatile p".toList
    locate [] line 14 = locate [] line 21 ∧
      locate [] line 21 = some ⟨"volatile".toList, ⟨13, 22⟩⟩ ∧
      locate [] line 13 = some ⟨"struct Node *".toList, ⟨0, 13⟩⟩ := by
  intro line
  have hword : WordIn line "struct Node *".toList "volatile".toList " p".toList :=
    ⟨by decide, by decide, List.all_eq_true.mp (by decide), by decide, by decide⟩
  refine ⟨(locate_within_word hword [] (by decide) (by decide)).1, ?_, ?_⟩
  · decide +kernel
  · decide +kernel

end TypeLens
