/-
# TypeLens.Proofs.Locate.TouchingWord -- the one word that a cursor touches

The word at a cursor is looked for from left to right, and the search takes the first word that the
cursor touches and gives up at the first one behind the cursor. Neither is a choice. The words that
the scan finds are all words of the line (`mem_lineWords_iff`), and a cursor touches at most one of
them, since no word starts inside another one or directly behind it (`IsWordOf.eq_of_touches`).

There is such a word exactly where a character of a word stands directly before the cursor or
directly behind it: such a character lies in a word of the line (`inWord_charAt?_iff`), and a cursor
touches a word if it stands at either side of one of its characters.
-/
import TypeLens.Proofs.Locate.WordAtCursor

namespace TypeLens

/-- The character that stands behind an offset of the text, if there is one. -/
def charAt? (text : Text) : Int → Option Char
  | .ofNat i => text[i]?
  | .negSucc _ => none

theorem charAt?_natCast (text : Text) (i : Nat) : charAt? text (i : Int) = text[i]? := rfl

theorem lt_length_of_charAt? {line : Text} {i : Int} (h : inWord (charAt? line i) = true) :
    0 ≤ i ∧ i < line.length := by
  cases i with
  | negSucc i => exact absurd h Bool.false_ne_true
  | ofNat i =>
    have hlt : i < line.length := by
      by_contra hge
      rw [charAt?, List.getElem?_eq_none (by omega)] at h
      exact Bool.false_ne_true h
    exact ⟨Int.natCast_nonneg i, Int.ofNat_lt.mpr hlt⟩

/-! ## The words of a line -/

/-- The sighting is a word of the line, at its place. -/
def Sighting.IsWordOf (line : Text) (s : Sighting) : Prop :=
  ∃ before behind, WordIn line before s.text behind ∧ s.span = Cut.span before s.text

/-- **The scan finds the words of the line and nothing else.** -/
theorem mem_lineWords_iff {line : Text} {s : Sighting} : s ∈ lineWords line ↔ s.IsWordOf line := by
  rw [lineWords, List.mem_map]
  constructor
  · rintro ⟨⟨p, found⟩, hmem, rfl⟩
    exact wordIn_of_mem_occurrences hmem
  · rintro ⟨before, behind, hword, hspan⟩
    refine ⟨(before.length, ⟨s.text, s.text.length⟩), ?_, ?_⟩
    · refine mem_occurrences_readWord.mpr ⟨before, s.text ++ behind, ?_, rfl, hword.wordAt⟩
      rw [hword.line_eq, List.append_assoc]
    · show (⟨s.text, Cut.span before s.text⟩ : Sighting) = s
      rw [← hspan]

namespace Sighting.IsWordOf

variable {line : Text} {s s' : Sighting} {cursor : Int}

theorem start_lt_stop (h : s.IsWordOf line) : s.span.start < s.span.stop := by
  obtain ⟨before, behind, hword, hspan⟩ := h
  have hpos := List.length_pos_of_ne_nil hword.ne_nil
  rw [hspan]
  simp only [Cut.span]
  omega

/-- A cursor that touches a word touches none that starts further on. -/
theorem start_le_of_touches (h : s.IsWordOf line) (h' : s'.IsWordOf line)
    (ht : s.span.touches cursor = true) (ht' : s'.span.touches cursor = true) :
    s'.span.start ≤ s.span.start := by
  obtain ⟨before, behind, hword, hspan⟩ := h
  obtain ⟨before', behind', hword', hspan'⟩ := h'
  rw [hspan, Span.touches_iff] at ht
  rw [hspan', Span.touches_iff] at ht'
  rw [hspan, hspan']
  simp only [Cut.span] at ht ht' ⊢
  have hstarts : WordStartsAt line before'.length := ⟨before', s'.text, behind', hword', rfl⟩
  by_contra hlt
  exact hword.not_wordStartsAt (by omega) (by omega) hstarts

/-- A word is determined by the place where it starts. -/
theorem eq_of_start_eq (h : s.IsWordOf line) (h' : s'.IsWordOf line)
    (hstart : s.span.start = s'.span.start) : s = s' := by
  obtain ⟨before, behind, hword, hspan⟩ := h
  obtain ⟨before', behind', hword', hspan'⟩ := h'
  rw [hspan, hspan'] at hstart
  have hline := hword.line_eq.symm.trans hword'.line_eq
  rw [List.append_assoc, List.append_assoc] at hline
  obtain ⟨rfl, hrest⟩ := List.append_inj hline (Int.ofNat.inj hstart)
  have htext := congrArg (List.takeWhile isWordChar) hrest
  rw [takeWhile_word_append hword.chars hword.right,
    takeWhile_word_append hword'.chars hword'.right] at htext
  obtain ⟨text, span⟩ := s
  obtain ⟨text', span'⟩ := s'
  obtain rfl : text = text' := htext
  rw [Sighting.mk.injEq]
  exact ⟨rfl, hspan.trans hspan'.symm⟩

/-- A cursor touches at most one word. -/
theorem eq_of_touches (h : s.IsWordOf line) (h' : s'.IsWordOf line)
    (ht : s.span.touches cursor = true) (ht' : s'.span.touches cursor = true) : s = s' :=
  h.eq_of_start_eq h' (Int.le_antisymm (h'.start_le_of_touches h ht' ht)
    (h.start_le_of_touches h' ht ht'))

end Sighting.IsWordOf

/-- A character that belongs to a word is one of a word of the line. -/
theorem inWord_charAt?_iff {line : Text} {i : Int} :
    inWord (charAt? line i) = true ↔
      ∃ s : Sighting, s.IsWordOf line ∧ s.span.start ≤ i ∧ i < s.span.stop := by
  constructor
  · intro h
    obtain ⟨hlow, hhigh⟩ := lt_length_of_charAt? h
    obtain ⟨n, rfl⟩ := Int.eq_ofNat_of_zero_le hlow
    have hn : n < line.length := Int.ofNat_lt.mp hhigh
    have hhead : inWord (line.drop n).head? = true := by
      rwa [charAt?_natCast, ← List.head?_drop] at h
    -- a word can be read at the character; the scan finds the one it is read from
    obtain ⟨before, between, found, hbefore, hword, hlt⟩ := word_anchors.covers
      (readWord_eq_some_iff.mpr ⟨takeWhile_ne_nil_of_head hhead, rfl⟩ :
        readWord (line.take n).getLast? (line.drop n) = some _)
    have hin := hword.wordIn
    have hlength := congrArg List.length hbefore
    rw [List.length_take_of_le (Nat.le_of_lt hn), List.length_append] at hlength
    rw [← List.append_assoc, ← hbefore, List.take_append_drop] at hin
    rw [hword.width_eq] at hlt
    refine ⟨⟨found.value, Cut.span before found.value⟩, ⟨_, _, hin, rfl⟩, ?_⟩
    simp only [Cut.span]
    omega
  · rintro ⟨s, ⟨before, behind, hword, hspan⟩, hlow, hhigh⟩
    rw [hspan] at hlow hhigh
    simp only [Cut.span] at hlow hhigh
    obtain ⟨n, rfl⟩ := Int.eq_ofNat_of_zero_le (Int.le_trans (Int.natCast_nonneg _) hlow)
    rw [charAt?_natCast]
    exact hword.inWord_getElem? (by omega) (by omega)

/-- A cursor touches a word if a character of it stands at either side of the cursor. -/
theorem exists_touching_iff {line : Text} {cursor : Int} :
    (∃ s : Sighting, s.IsWordOf line ∧ s.span.touches cursor = true) ↔
      inWord (charAt? line cursor) = true ∨ inWord (charAt? line (cursor - 1)) = true := by
  rw [inWord_charAt?_iff, inWord_charAt?_iff, ← exists_or]
  refine exists_congr fun s => ?_
  rw [← and_or_left, Span.touches_iff]
  refine and_congr_right fun hword => ?_
  have := hword.start_lt_stop
  omega

/-! ## The word at a cursor -/

section Cursor

variable (line : Text) (cursor : Int)

theorem touchingWord_eq_some_iff (s : Sighting) :
    touchingWord line cursor = some s ↔ s.IsWordOf line ∧ s.span.touches cursor = true := by
  rw [touchingWord_eq_find?]
  constructor
  · intro h
    have htouch := List.find?_some h
    exact ⟨mem_lineWords_iff.mp (List.mem_of_find?_eq_some h), htouch⟩
  · rintro ⟨hword, htouch⟩
    cases hfirst : (lineWords line).find? fun w => w.span.touches cursor with
    | none => exact absurd htouch (List.find?_eq_none.mp hfirst s (mem_lineWords_iff.mpr hword))
    | some first =>
      have htouchFirst := List.find?_some hfirst
      have hwordFirst := mem_lineWords_iff.mp (List.mem_of_find?_eq_some hfirst)
      rw [hwordFirst.eq_of_touches hword htouchFirst htouch]

theorem touchingWord_isSome_iff :
    (touchingWord line cursor).isSome = true ↔
      ∃ s : Sighting, s.IsWordOf line ∧ s.span.touches cursor = true := by
  simp only [Option.isSome_iff_exists, touchingWord_eq_some_iff]

/-- A list that is related in order, although no two of its elements are, has at most one. -/
theorem eq_toList_head?_of_pairwise {α : Type} {R : α → α → Prop} {l : List α}
    (hpair : l.Pairwise R) (hnot : ∀ x ∈ l, ∀ y ∈ l, ¬ R x y) : l = l.head?.toList := by
  match l with
  | [] => rfl
  | [_] => rfl
  | x :: y :: rest =>
    have hxy := (List.pairwise_cons.mp hpair).1 y (by simp)
    exact absurd hxy (hnot x (by simp) y (by simp))

/-- Among all words of the line, the word at the cursor is the only one that the cursor touches. -/
theorem filter_touches_lineWords :
    (lineWords line).filter (fun w => w.span.touches cursor) =
      (touchingWord line cursor).toList := by
  have hsorted := (pairwise_lineWords line).sublist
    (List.filter_sublist (p := fun w => w.span.touches cursor))
  have hall : ∀ s ∈ (lineWords line).filter (fun w => w.span.touches cursor),
      s.IsWordOf line ∧ s.span.touches cursor = true := by
    intro s hs
    obtain ⟨hmem, htouch⟩ := List.mem_filter.mp hs
    exact ⟨mem_lineWords_iff.mp hmem, htouch⟩
  rw [touchingWord_eq_find?, ← List.head?_filter]
  refine eq_toList_head?_of_pairwise hsorted ?_
  intro s hs s' hs' hlt
  obtain ⟨hword, htouch⟩ := hall s hs
  obtain ⟨hword', htouch'⟩ := hall s' hs'
  rw [hword.eq_of_touches hword' htouch htouch'] at hlt
  exact Int.lt_irrefl _ hlt

/-- **The word at a cursor is the only word that the cursor touches.** It is there exactly if the
cursor is on the line with a character of a word directly behind it or directly before it. Then
there is one and only one word of the line that the cursor touches, and that word is the answer.
The search, which passes through the words of the line in order, misses no word by giving up early,
and never has two words to choose from. -/
theorem touchingWord_is_the_only_one :
    ((touchingWord line cursor).isSome = true ↔
      (0 ≤ cursor ∧ cursor ≤ line.length) ∧
        (inWord (charAt? line cursor) = true ∨ inWord (charAt? line (cursor - 1)) = true)) ∧
    ((touchingWord line cursor).isSome = true ↔
      ∃! s : Sighting, s.IsWordOf line ∧ s.span.touches cursor = true) ∧
    (∀ s, touchingWord line cursor = some s ↔
      s.IsWordOf line ∧ s.span.touches cursor = true) ∧
    (∀ s, s ∈ lineWords line ↔ s.IsWordOf line) ∧
    (lineWords line).filter (fun w => w.span.touches cursor) =
      (touchingWord line cursor).toList := by
  refine ⟨?_, ?_, touchingWord_eq_some_iff line cursor, fun s => mem_lineWords_iff,
    filter_touches_lineWords line cursor⟩
  · rw [touchingWord_isSome_iff, exists_touching_iff]
    refine ⟨fun h => ⟨?_, h⟩, And.right⟩
    rcases h with h | h
    · have := lt_length_of_charAt? h
      omega
    · have := lt_length_of_charAt? h
      omega
  · rw [touchingWord_isSome_iff]
    refine ⟨?_, ExistsUnique.exists⟩
    rintro ⟨s, hword, htouch⟩
    refine ⟨s, ⟨hword, htouch⟩, ?_⟩
    rintro s' ⟨hword', htouch'⟩
    exact hword'.eq_of_touches hword htouch' htouch

/-- At a gap of one character, either cursor has a word of its own. -/
example :
    touchingWord "a b".toList 1 = some ⟨['a'], ⟨0, 1⟩⟩ ∧
      touchingWord "a b".toList 2 = some ⟨['b'], ⟨2, 3⟩⟩ := by
  decide +kernel

end Cursor

end TypeLens
