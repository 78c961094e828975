/-
# TypeLens.Proofs.Locate.Soundness -- what is seen stands in the line

A strategy answers with a text and a span. Whichever strategy it is, the span is a piece of the line
that the cursor touches and that starts with a word, it cuts no word apart, and the text is that
piece, trimmed and single-spaced (`Sighting.Sound`).

The four kinds of sightings are brought to one form first: the line is split into what is before the
piece, the piece, and what is behind it, with no word across either cut (`Cut`). Words that are cut
are spoken of by their runs (`WordIn`), not by the characters next to the cut.
-/
import TypeLens.Proofs.Locate.Standalone

namespace TypeLens

/-! ## Words of a line -/

/-- `word` is a maximal run of word characters of the line, between `before` and `behind`. -/
structure WordIn (line before word behind : Text) : Prop where
  line_eq : line = before ++ word ++ behind
  ne_nil : word ≠ []
  chars : ∀ c ∈ word, isWordChar c = true
  left : inWord before.getLast? = false
  right : inWord behind.head? = false

/-- A word of the line starts at the offset. -/
def WordStartsAt (line : Text) (offset : Int) : Prop :=
  ∃ before word behind, WordIn line before word behind ∧ offset = before.length

/-- The offset lies strictly inside a word of the line. -/
def InsideWord (line : Text) (offset : Int) : Prop :=
  ∃ before word behind, WordIn line before word behind ∧ before.length < offset ∧
    offset < before.length + word.length

/-- Where the scan for words stops, a word of the line stands. -/
theorem WordAt.wordIn {passed rest : Text} {found : Found Text} (h : WordAt passed rest found) :
    WordIn (passed ++ rest) passed found.value (rest.dropWhile isWordChar) := by
  obtain ⟨hleft, hne, rfl⟩ := h
  refine ⟨?_, hne, ?_, hleft, inWord_head_dropWhile rest⟩
  · rw [List.append_assoc, List.takeWhile_append_dropWhile]
  · intro c hc
    exact List.mem_takeWhile_imp hc

theorem WordAt.width_eq {passed rest : Text} {found : Found Text} (h : WordAt passed rest found) :
    found.width = found.value.length := by
  obtain ⟨-, -, rfl⟩ := h
  rfl

theorem WordIn.wordAt {line before word behind : Text} (h : WordIn line before word behind) :
    WordAt before (word ++ behind) ⟨word, word.length⟩ := by
  have htake := takeWhile_word_append h.chars h.right
  refine ⟨h.left, ?_, ?_⟩
  · rw [htake]
    exact h.ne_nil
  · rw [htake]

/-- Where no word goes on and one begins, a word of the line starts. -/
theorem wordStartsAt_of_split {a b : Text} (hleft : inWord a.getLast? = false)
    (hhead : inWord b.head? = true) : WordStartsAt (a ++ b) a.length := by
  have hword : WordAt a b _ := ⟨hleft, takeWhile_ne_nil_of_head hhead, rfl⟩
  exact ⟨a, _, _, hword.wordIn, rfl⟩

/-- A cut next to a character that is in no word goes through no word. -/
theorem not_insideWord_of_split {a b : Text}
    (h : inWord a.getLast? = false ∨ inWord b.head? = false) :
    ¬ InsideWord (a ++ b) a.length := by
  rintro ⟨before, word, behind, hword, hlow, hhigh⟩
  have hline := hword.line_eq
  rw [List.append_assoc] at hline
  -- the cut splits the word into two parts, neither of them empty
  rcases List.append_eq_append_iff.mp hline with ⟨x, hbefore, -⟩ | ⟨first, rfl, hrest⟩
  · rw [hbefore, List.length_append] at hlow
    omega
  rw [List.length_append] at hlow hhigh
  rcases List.append_eq_append_iff.mp hrest with ⟨x, rfl, -⟩ | ⟨second, rfl, rfl⟩
  · rw [List.length_append] at hhigh
    omega
  have hfirst : first ≠ [] := by
    rintro rfl
    simp at hlow
  have hsecond : second ≠ [] := by
    rintro rfl
    simp at hhigh
  rcases h with hno | hno
  · have hmem : first.getLast hfirst ∈ first ++ second :=
      List.mem_append_left _ (List.getLast_mem hfirst)
    rw [List.getLast?_append_of_ne_nil _ hfirst, List.getLast?_eq_some_getLast hfirst] at hno
    exact Bool.false_ne_true (hno.symm.trans (hword.chars _ hmem))
  · obtain ⟨c, second, rfl⟩ := List.exists_cons_of_ne_nil hsecond
    have hmem : c ∈ first ++ c :: second := by simp
    exact Bool.false_ne_true (hno.symm.trans (hword.chars c hmem))

/-! ## Sound sightings -/

/-- The characters of a line in a span. -/
def Span.slice (span : Span) (line : Text) : Text :=
  (line.take span.stop.toNat).drop span.start.toNat

/-- What is true of everything that is seen at a cursor of a line. -/
structure Sighting.Sound (line : Text) (cursor : Int) (s : Sighting) : Prop where
  start_nonneg : 0 ≤ s.span.start
  start_lt_stop : s.span.start < s.span.stop
  stop_le_length : s.span.stop ≤ line.length
  start_le_cursor : s.span.start ≤ cursor
  cursor_le_stop : cursor ≤ s.span.stop
  text_eq : s.text = collapse (s.span.slice line)
  startsWord : WordStartsAt line s.span.start
  start_not_inside : ¬ InsideWord line s.span.start
  stop_not_inside : ¬ InsideWord line s.span.stop

/-- The line is cut into three pieces. The middle one starts with a word, and neither cut goes
through a word. -/
structure Cut (line before piece behind : Text) : Prop where
  line_eq : line = before ++ piece ++ behind
  left : inWord before.getLast? = false
  head : inWord piece.head? = true
  right : inWord piece.getLast? = false ∨ inWord behind.head? = false

/-- The place of the middle piece. -/
def Cut.span (before piece : Text) : Span := ⟨before.length, (before.length + piece.length : Nat)⟩

namespace Cut

variable {line before piece behind : Text}

theorem piece_ne_nil (h : Cut line before piece behind) : piece ≠ [] := by
  intro hnil
  have hhead := h.head
  rw [hnil] at hhead
  exact Bool.false_ne_true hhead

theorem slice_eq (h : Cut line before piece behind) : (span before piece).slice line = piece := by
  show (line.take (before.length + piece.length)).drop before.length = piece
  rw [h.line_eq, ← List.length_append, List.take_left, List.drop_left]

/-- The middle piece, if the cursor touches it, is seen soundly. -/
theorem sound (h : Cut line before piece behind) {cursor : Int}
    (htouch : (span before piece).touches cursor = true) :
    Sighting.Sound line cursor ⟨collapse piece, span before piece⟩ := by
  obtain ⟨hlow, hhigh⟩ := Span.touches_iff.mp htouch
  have hpos := List.length_pos_of_ne_nil h.piece_ne_nil
  have hlength : line.length = before.length + piece.length + behind.length := by
    rw [h.line_eq, List.length_append, List.length_append]
  have hstart : line = before ++ (piece ++ behind) := by rw [h.line_eq, List.append_assoc]
  have hhead : inWord (piece ++ behind).head? = true := by
    rw [List.head?_append_of_ne_nil _ h.piece_ne_nil]
    exact h.head
  have hlast : inWord (before ++ piece).getLast? = false ∨ inWord behind.head? = false := by
    rw [List.getLast?_append_of_ne_nil _ h.piece_ne_nil]
    exact h.right
  refine ⟨?_, ?_, ?_, hlow, hhigh, ?_, ?_, ?_, ?_⟩
  · show (0 : Int) ≤ before.length
    omega
  · show (before.length : Int) < (before.length + piece.length : Nat)
    omega
  · show ((before.length + piece.length : Nat) : Int) ≤ line.length
    omega
  · rw [h.slice_eq]
  · rw [hstart]
    exact wordStartsAt_of_split h.left hhead
  · rw [hstart]
    exact not_insideWord_of_split (.inl h.left)
  · have hcut := not_insideWord_of_split hlast
    rwa [← h.line_eq, List.length_append] at hcut

end Cut

/-- A word is seen as it stands. -/
theorem collapse_word {w : Text} (hw : ∀ c ∈ w, isWordChar c = true) : collapse w = w := by
  have hchars : ∀ c ∈ w, isBlank c = false := fun c hc => isBlank_of_isWordChar (hw c hc)
  rw [collapse, trim_word hchars, squeeze_eq_self hchars]

/-! ## Words -/

theorem WordIn.cut {line before word behind : Text} (h : WordIn line before word behind) :
    Cut line before word behind := by
  refine ⟨h.line_eq, h.left, ?_, .inr h.right⟩
  obtain ⟨c, rest, rfl⟩ := List.exists_cons_of_ne_nil h.ne_nil
  exact h.chars c (by simp)

theorem wordIn_of_mem_occurrences {line : Text} {p : Nat} {found : Found Text}
    (h : (p, found) ∈ occurrences readWord line) :
    ∃ before behind, WordIn line before found.value behind ∧
      found.span p = Cut.span before found.value := by
  obtain ⟨passed, rest, rfl, rfl, hword⟩ := mem_occurrences_readWord.mp h
  refine ⟨passed, rest.dropWhile isWordChar, hword.wordIn, ?_⟩
  rw [Found.span, Cut.span, hword.width_eq]

/-- The word at a cursor is a word of the line that the cursor touches. -/
theorem wordIn_of_touchingWord {line : Text} {cursor : Int} {s : Sighting}
    (h : touchingWord line cursor = some s) :
    ∃ before behind, WordIn line before s.text behind ∧ s.span = Cut.span before s.text ∧
      s.span.touches cursor = true := by
  rw [touchingWord_eq] at h
  obtain ⟨⟨p, found⟩, hfirst, rfl⟩ := Option.map_eq_some_iff.mp h
  have htouch := List.find?_some hfirst
  obtain ⟨before, behind, hword, hspan⟩ :=
    wordIn_of_mem_occurrences (List.mem_of_find?_eq_some hfirst)
  exact ⟨before, behind, hword, hspan, htouch⟩

theorem sound_of_touchingWord {line : Text} {cursor : Int} {s : Sighting}
    (h : touchingWord line cursor = some s) : s.Sound line cursor := by
  obtain ⟨before, behind, hword, hspan, htouch⟩ := wordIn_of_touchingWord h
  rw [hspan] at htouch
  have hsound := hword.cut.sound htouch
  rwa [collapse_word hword.chars, ← hspan] at hsound

/-! ## Finds -/

/-- The characters that a find takes are cut out of the line: they start with a word, and no word
runs across either end. -/
def Found.CutOut {α : Type} (found : Found α) (start : Nat) (line : Text) : Prop :=
  ∃ before behind, Cut line before (found.slice start line) behind ∧
    found.span start = Cut.span before (found.slice start line)

/-- A find that is cut out of its line is seen soundly by a cursor that touches it. -/
theorem Found.CutOut.sound {α : Type} {found : Found α} {start : Nat} {line : Text} {cursor : Int}
    (h : found.CutOut start line) (htouch : (found.span start).touches cursor = true) :
    Sighting.Sound line cursor ⟨collapse (found.slice start line), found.span start⟩ := by
  obtain ⟨before, behind, hcut, hspan⟩ := h
  rw [hspan] at htouch ⊢
  exact hcut.sound htouch

/-- Where a find is read, the line is cut before it and behind it. -/
theorem Found.cutOut_of_width {α : Type} {found : Found α} {passed rest : Text}
    (hleft : inWord passed.getLast? = false) (hhead : inWord rest.head? = true)
    (hpos : 0 < found.width) (hle : found.width ≤ rest.length)
    (hright : inWord (rest.take found.width).getLast? = false ∨
      inWord (rest.drop found.width).head? = false) :
    found.CutOut passed.length (passed ++ rest) := by
  have hslice : found.slice passed.length (passed ++ rest) = rest.take found.width := by
    rw [Found.slice, List.drop_left]
  rw [Found.CutOut, hslice]
  refine ⟨passed, rest.drop found.width, ⟨?_, hleft, ?_, hright⟩, ?_⟩
  · rw [List.append_assoc, List.take_append_drop]
  · rwa [List.head?_take, if_neg (by omega)]
  · rw [Cut.span, List.length_take_of_le hle, Found.span]

/-! ## Composite expressions -/

/-- A composite expression ends at a boundary: the characters around its end are not both in a
word. -/
theorem compositeEnd_right {text : Text} {n : Nat} (h : compositeEnd text = some n) :
    inWord (text.take n).getLast? = false ∨ inWord (text.drop n).head? = false := by
  obtain ⟨hpos, hle⟩ := compositeEnd_bounds h
  have hboundary : boundaryBehind text n = true := List.find?_some h
  have hlast : (text.take n).getLast? = text[n - 1]? := by
    rw [List.getLast?_take, if_neg (by omega), List.getElem?_eq_getElem (by omega)]
    rfl
  rw [hlast, List.head?_drop]
  rw [boundaryBehind, isBoundary] at hboundary
  cases hbefore : inWord text[n - 1]? with
  | false => exact .inl rfl
  | true =>
    right
    rw [hbefore] at hboundary
    simpa using hboundary

theorem cutOut_of_mem_composite {line : Text} {p : Nat} {found : Found Unit}
    (h : (p, found) ∈ occurrences readComposite line) : found.CutOut p line := by
  obtain ⟨passed, rest, rfl, -, rfl, hread⟩ := mem_occurrences h
  obtain ⟨hleft, hend⟩ := readComposite_eq_some hread
  obtain ⟨hpos, hle⟩ := compositeEnd_bounds hend
  exact Found.cutOut_of_width hleft (inWord_head_of_compositeEnd hend) hpos hle
    (compositeEnd_right hend)

theorem sound_of_seeComposite {line : Text} {cursor : Int} {s : Sighting}
    (h : Strategy.seeComposite line cursor = some s) : s.Sound line cursor := by
  obtain ⟨⟨p, found⟩, hfirst, rfl⟩ := Option.map_eq_some_iff.mp h
  have htouch := List.find?_some hfirst
  exact (cutOut_of_mem_composite (List.mem_of_find?_eq_some hfirst)).sound htouch

/-! ## Mentions -/

/-- A mention taken apart: the keyword, the blanks, the name, and what is behind the name. -/
structure MentionParts (text keyword gap name tail : Text) (found : Found Mention) : Prop where
  text_eq : text = keyword ++ gap ++ name ++ tail
  keyword_mem : keyword ∈ aggregateKeywords
  gap_ne_nil : gap ≠ []
  gap_blank : ∀ c ∈ gap, isBlank c = true
  name_ne_nil : name ≠ []
  name_chars : ∀ c ∈ name, isWordChar c = true
  tail_head : inWord tail.head? = false
  value_eq : found.value = ⟨name, keyword.length + gap.length⟩
  width_eq : found.width = keyword.length + gap.length + name.length + pointerTail tail

theorem exists_mentionParts {before : Option Char} {text : Text} {found : Found Mention}
    (h : readMention before text = some found) :
    inWord before = false ∧ ∃ keyword gap name tail,
      MentionParts text keyword gap name tail found := by
  obtain ⟨hbefore, k, hk, hof⟩ := readMention_eq_some h
  obtain ⟨behind, rfl, hgap, hname, hwidth⟩ := readMentionOf_eq_some hof
  refine ⟨hbefore, k, behind.takeWhile isBlank, (behind.dropWhile isBlank).takeWhile isWordChar,
    (behind.dropWhile isBlank).dropWhile isWordChar, ?_⟩
  refine ⟨?_, hk, hgap, ?_, hname, ?_, inWord_head_dropWhile _, ?_, hwidth⟩
  · rw [List.append_assoc, List.append_assoc, List.takeWhile_append_dropWhile,
      List.takeWhile_append_dropWhile]
  · intro c hc
    exact List.mem_takeWhile_imp hc
  · intro c hc
    exact List.mem_takeWhile_imp hc
  · rw [readMentionOf, List.isPrefixOf?_eq_some_iff_append_eq.mpr rfl] at hof
    dsimp only at hof
    rw [if_neg (by rw [Bool.or_eq_true, List.isEmpty_iff, List.isEmpty_iff]; tauto)] at hof
    rw [← Option.some.inj hof]

/-- Either no stars belong to a mention, or those at the front of its tail, blanks apart, do. -/
theorem pointerTail_cases (tail : Text) :
    pointerTail tail = 0 ∨ ∃ gap stars rest, tail = gap ++ stars ++ rest ∧ stars ≠ [] ∧
      (∀ c ∈ stars, c = '*') ∧ pointerTail tail = (gap ++ stars).length := by
  simp only [pointerTail]
  split
  · rename_i hstars
    rw [Bool.and_eq_true, Bool.not_eq_true', List.isEmpty_eq_false_iff] at hstars
    refine .inr ⟨tail.takeWhile isBlank, (tail.dropWhile isBlank).takeWhile (· == '*'),
      (tail.dropWhile isBlank).dropWhile (· == '*'), ?_, hstars.1, ?_, ?_⟩
    · rw [List.append_assoc, List.takeWhile_append_dropWhile, List.takeWhile_append_dropWhile]
    · intro c hc
      have hstar : (c == '*') = true := List.mem_takeWhile_imp (p := (· == '*')) hc
      exact beq_iff_eq.mp hstar
    · rw [List.length_append]
  · exact .inl rfl

namespace MentionParts

variable {text keyword gap name tail : Text} {found : Found Mention}

theorem inWord_head (h : MentionParts text keyword gap name tail found) :
    inWord text.head? = true := by
  rw [h.text_eq, List.append_assoc, List.append_assoc]
  exact (keywordRun_of_mem_aggregateKeywords h.keyword_mem).inWord_head _

/-- A mention ends with its name or with a star. -/
theorem right (h : MentionParts text keyword gap name tail found) :
    inWord (text.take found.width).getLast? = false ∨
      inWord (text.drop found.width).head? = false := by
  have hwidth : found.width = (keyword ++ gap ++ name).length + pointerTail tail := by
    rw [h.width_eq, List.length_append, List.length_append]
  rw [h.text_eq, hwidth, List.take_length_add_append, List.drop_length_add_append]
  rcases pointerTail_cases tail with hzero | ⟨space, stars, rest, rfl, hne, hstars, hlength⟩
  · right
    rw [hzero, List.drop_zero]
    exact h.tail_head
  · left
    rw [hlength, List.take_left, ← List.append_assoc, List.getLast?_append_of_ne_nil _ hne,
      List.getLast?_eq_some_getLast hne, hstars _ (List.getLast_mem hne)]
    exact isWordChar_star

theorem width_le (h : MentionParts text keyword gap name tail found) :
    found.width ≤ text.length := by
  have htail := pointerTail_le tail
  rw [h.width_eq, h.text_eq]
  simp only [List.length_append]
  omega

/-- The whole mention, in a line that no word runs into it from. -/
theorem cutOut (h : MentionParts text keyword gap name tail found) {passed : Text}
    (hleft : inWord passed.getLast? = false) : found.CutOut passed.length (passed ++ text) := by
  have hpos : 0 < found.width := by
    have hname := List.length_pos_of_ne_nil h.name_ne_nil
    rw [h.width_eq]
    omega
  exact Found.cutOut_of_width hleft h.inWord_head hpos h.width_le h.right

/-- The name of a mention is a word of the line: blanks are before it. -/
theorem wordIn_name (h : MentionParts text keyword gap name tail found) (passed : Text) :
    WordIn (passed ++ text) (passed ++ keyword ++ gap) name tail := by
  refine ⟨?_, h.name_ne_nil, h.name_chars, ?_, h.tail_head⟩
  · simp only [h.text_eq, List.append_assoc]
  · exact inWord_getLast_blanks _ h.gap_ne_nil h.gap_blank

end MentionParts

/-- The place of the name of a mention. -/
def Found.nameSpan (found : Found Mention) (start : Nat) : Span :=
  ⟨(start + found.value.nameOffset : Nat),
    (start + found.value.nameOffset + found.value.name.length : Nat)⟩

/-- A mention is cut out of its line, and its name is a word of the line. -/
theorem cutOut_of_mem_mention {line : Text} {p : Nat} {found : Found Mention}
    (h : (p, found) ∈ occurrences readMention line) :
    found.CutOut p line ∧ ∃ before behind, WordIn line before found.value.name behind ∧
      found.nameSpan p = Cut.span before found.value.name := by
  obtain ⟨passed, rest, rfl, -, rfl, hread⟩ := mem_occurrences h
  obtain ⟨hleft, keyword, gap, name, tail, hparts⟩ := exists_mentionParts hread
  refine ⟨hparts.cutOut hleft, passed ++ keyword ++ gap, tail, ?_, ?_⟩
  · rw [hparts.value_eq]
    exact hparts.wordIn_name passed
  · simp only [Found.nameSpan, Cut.span, hparts.value_eq, List.length_append, Nat.add_assoc]

/-- What is seen of a mention: its name if the cursor touches that, and else all of it. -/
def Found.seen (found : Found Mention) (start : Nat) (line : Text) (cursor : Int) : Sighting :=
  if (found.nameSpan start).touches cursor then ⟨found.value.name, found.nameSpan start⟩
  else ⟨collapse (found.slice start line), found.span start⟩

theorem seeMention_eq (line : Text) (cursor : Int) :
    Strategy.seeMention line cursor =
      (firstTouching readMention line cursor).map fun e => e.2.seen e.1 line cursor :=
  rfl

theorem sound_of_seeMention {line : Text} {cursor : Int} {s : Sighting}
    (h : Strategy.seeMention line cursor = some s) : s.Sound line cursor := by
  rw [seeMention_eq] at h
  obtain ⟨⟨p, found⟩, hfirst, rfl⟩ := Option.map_eq_some_iff.mp h
  have htouch := List.find?_some hfirst
  obtain ⟨hcut, before, behind, hword, hspan⟩ :=
    cutOut_of_mem_mention (List.mem_of_find?_eq_some hfirst)
  dsimp only [Found.seen]
  split
  · rename_i hname
    rw [hspan] at hname ⊢
    have hsound := hword.cut.sound hname
    rwa [collapse_word hword.chars] at hsound
  · exact hcut.sound htouch

/-! ## Every sighting -/

/-- Whatever a strategy sees is in the line, at the cursor, and made of whole words. -/
theorem sound_of_see {known : List Text} {line : Text} {cursor : Int} {s : Sighting}
    (strategy : Strategy) (h : strategy.see known line cursor = some s) : s.Sound line cursor := by
  cases strategy with
  | aggregateMention => exact sound_of_seeMention h
  | knownName => exact sound_of_touchingWord (Option.filter_eq_some_iff.mp h).1
  | composite => exact sound_of_seeComposite h
  | loneKeyword => exact sound_of_touchingWord (Option.filter_eq_some_iff.mp h).1

theorem sound_of_locate {known : List Text} {line : Text} {cursor : Int} {s : Sighting}
    (h : locate known line cursor = some s) : s.Sound line cursor := by
  obtain ⟨strategy, -, hsee⟩ := List.exists_of_findSome?_eq_some h
  exact sound_of_see strategy hsee

end TypeLens
