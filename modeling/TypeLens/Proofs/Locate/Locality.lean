/-
# TypeLens.Proofs.Locate.Locality -- what stands beyond a delimiter is not seen

A delimiter is a character that is neither part of a word, nor a blank, nor a star. No reader reads
across one, to each reader it looks like the end of the line, and behind it each reader starts as at
the start of a line (`Local`). Hence the finds of a line with a delimiter are those of the two
sides, a cursor on one side touches no find of the other, and every way to see a type sees on either
side what it would see if that side were the whole line (`locate_append_delimiter`).

Blanks and stars are no delimiters: a name is read across blanks, and stars belong to an expression
when a word follows them.
-/
import TypeLens.Proofs.Locate.Composite
import TypeLens.Proofs.Locate.Occurrences

namespace TypeLens

/-! ## Delimiters -/

/-- A character that no type expression contains. -/
structure Delimiter (d : Char) : Prop where
  notWord : isWordChar d = false
  notBlank : isBlank d = false
  notStar : d ≠ '*'

namespace Delimiter

variable {d : Char} {p : Char → Bool}

theorem takeWhile_append (h : p d = false) (a b : Text) :
    (a ++ d :: b).takeWhile p = a.takeWhile p := by
  induction a with
  | nil => exact List.takeWhile_cons_of_neg (by simp [h])
  | cons c a ih =>
    rw [List.cons_append, List.takeWhile_cons, List.takeWhile_cons, ih]

theorem dropWhile_append (h : p d = false) (a b : Text) :
    (a ++ d :: b).dropWhile p = a.dropWhile p ++ d :: b := by
  induction a with
  | nil => exact List.dropWhile_cons_of_neg (by simp [h])
  | cons c a ih =>
    rw [List.cons_append, List.dropWhile_cons, List.dropWhile_cons, ih]
    split <;> rfl

theorem runLength_append (h : p d = false) (a b : Text) :
    runLength p (a ++ d :: b) = runLength p a := by
  rw [runLength, takeWhile_append h, runLength]

theorem star_ne (h : Delimiter d) : (d == '*') = false := by simpa using h.notStar

/-- A delimiter ends a word like the end of the line. -/
theorem inWord_head_append (h : Delimiter d) (a b : Text) :
    inWord (a ++ d :: b).head? = inWord a.head? := by
  cases a with
  | nil => exact h.notWord
  | cons c a => rfl

theorem isPrefixOf?_append {front : Text} (h : d ∉ front) (a b : Text) :
    front.isPrefixOf? (a ++ d :: b) = (front.isPrefixOf? a).map (· ++ d :: b) := by
  induction front generalizing a with
  | nil => cases a <;> rfl
  | cons f front ih =>
    -- the delimiter stops the comparison where the end of the text does
    have hf : f ≠ d := fun e => h (by simp [e])
    have hfront : d ∉ front := fun m => h (by simp [m])
    cases a with
    | nil => simp [List.isPrefixOf?, hf]
    | cons c a =>
      rw [List.cons_append, List.isPrefixOf?, List.isPrefixOf?]
      split
      · exact ih hfront a
      · rfl

theorem not_mem_of_word (h : Delimiter d) {w : Text} (hw : ∀ c ∈ w, isWordChar c = true) :
    d ∉ w := by
  intro hmem
  have := hw d hmem
  rw [h.notWord] at this
  exact Bool.false_ne_true this

end Delimiter

/-! ## Local readers -/

/-- A reader to which a delimiter is the end of what is before it and the start of what is behind
it. -/
structure Reader.Local {α : Type} (read : Reader α) (d : Char) : Prop where
  /-- Behind the delimiter, a line starts. -/
  start : ∀ text, read (some d) text = read none text
  /-- Nothing begins with the delimiter. -/
  stop : ∀ before b, read before (d :: b) = none
  /-- In front of the delimiter, the line ends. -/
  front : ∀ before a b, a ≠ [] → read before (a ++ d :: b) = read before a
  /-- A find is not empty and lies within the text. -/
  width : ∀ before a found, read before a = some found → 0 < found.width ∧ found.width ≤ a.length

theorem readWord_local {d : Char} (h : Delimiter d) : Reader.Local readWord d where
  start _ := rfl
  stop _ b := by simp [readWord, h.notWord]
  front _ a b _ := by simp only [readWord, Delimiter.takeWhile_append h.notWord]
  width _ a found hread := by
    unfold readWord at hread
    split at hread
    · simp at hread
    · rename_i hne
      obtain rfl := Option.some.inj hread
      exact ⟨List.length_pos_of_ne_nil hne, (List.takeWhile_prefix _).length_le⟩

/-- The stars of a mention are those of a composite expression, if there are any. -/
theorem pointerTail_le_compositeTail (text : Text) : pointerTail text ≤ compositeTail text := by
  rw [pointerTail, compositeTail]
  cases inWord ((text.dropWhile isBlank).dropWhile (· == '*')).head? with
  | false => simp
  | true =>
    simp only [Bool.and_true, if_true]
    split
    · exact Nat.le_refl _
    · exact Nat.zero_le _

theorem pointerTail_le (text : Text) : pointerTail text ≤ text.length :=
  Nat.le_trans (pointerTail_le_compositeTail text) (compositeTail_le text)

theorem pointerTail_append_delimiter {d : Char} (h : Delimiter d) (a b : Text) :
    pointerTail (a ++ d :: b) = pointerTail a := by
  simp only [pointerTail, Delimiter.takeWhile_append h.notBlank,
    Delimiter.dropWhile_append h.notBlank,
    Delimiter.takeWhile_append (p := (· == '*')) h.star_ne,
    Delimiter.dropWhile_append (p := (· == '*')) h.star_ne, h.inWord_head_append]

theorem aggregateKeywords_sub_vocabulary : ∀ k ∈ aggregateKeywords, k ∈ vocabulary := by
  decide +kernel

theorem readMentionOf_append_delimiter {d : Char} (h : Delimiter d) {keyword : Text}
    (hk : keyword ∈ aggregateKeywords) (a b : Text) :
    readMentionOf keyword (a ++ d :: b) = readMentionOf keyword a := by
  have hnot : d ∉ keyword :=
    h.not_mem_of_word (isWordChar_of_mem_vocabulary (aggregateKeywords_sub_vocabulary _ hk))
  rw [readMentionOf, readMentionOf, Delimiter.isPrefixOf?_append hnot]
  cases keyword.isPrefixOf? a with
  | none => rfl
  | some behind =>
    simp only [Option.map_some, Delimiter.takeWhile_append h.notBlank,
      Delimiter.dropWhile_append h.notBlank, Delimiter.takeWhile_append h.notWord,
      Delimiter.dropWhile_append h.notWord, pointerTail_append_delimiter h]

/-- The parts of a mention. -/
theorem readMentionOf_eq_some {keyword text : Text} {found : Found Mention}
    (h : readMentionOf keyword text = some found) :
    ∃ behind, text = keyword ++ behind ∧ behind.takeWhile isBlank ≠ [] ∧
      (behind.dropWhile isBlank).takeWhile isWordChar ≠ [] ∧
      found.width = keyword.length + runLength isBlank behind +
        runLength isWordChar (behind.dropWhile isBlank) +
        pointerTail ((behind.dropWhile isBlank).dropWhile isWordChar) := by
  rw [readMentionOf] at h
  split at h
  · simp at h
  · rename_i behind hdrop
    dsimp only at h
    split at h
    · simp at h
    · rename_i hnonempty
      rw [Bool.or_eq_true, not_or, List.isEmpty_iff, List.isEmpty_iff] at hnonempty
      obtain rfl := Option.some.inj h
      exact ⟨behind, (List.append_eq_of_isPrefixOf?_eq_some hdrop).symm, hnonempty.1, hnonempty.2,
        rfl⟩

theorem readMention_eq_some {before : Option Char} {text : Text} {found : Found Mention}
    (h : readMention before text = some found) :
    inWord before = false ∧ ∃ k ∈ aggregateKeywords, readMentionOf k text = some found := by
  rw [readMention] at h
  split at h
  · simp at h
  · rename_i hbefore
    obtain ⟨k, hk, hread⟩ := List.exists_of_findSome?_eq_some h
    exact ⟨by simpa using hbefore, k, hk, hread⟩

theorem readMention_local {d : Char} (h : Delimiter d) : Reader.Local readMention d where
  start text := by
    rw [readMention, readMention, show inWord (some d) = inWord none from h.notWord]
  stop before b := by
    rw [Option.eq_none_iff_forall_ne_some]
    intro found hread
    obtain ⟨-, k, hk, hof⟩ := readMention_eq_some hread
    obtain ⟨behind, htext, -⟩ := readMentionOf_eq_some hof
    -- the delimiter would be the first letter of the keyword
    have hvocab := aggregateKeywords_sub_vocabulary k hk
    refine h.not_mem_of_word (isWordChar_of_mem_vocabulary hvocab) ?_
    obtain ⟨c, k', rfl⟩ := List.exists_cons_of_ne_nil (vocabulary_ne_nil hvocab)
    simp only [List.cons_append, List.cons.injEq] at htext
    simp [htext.1]
  front before a b _ := by
    rw [readMention, readMention]
    congr 1
    apply findSome?_congr
    intro k hk
    exact readMentionOf_append_delimiter h hk a b
  width before a found hread := by
    obtain ⟨-, k, hk, hof⟩ := readMention_eq_some hread
    obtain ⟨behind, rfl, -, -, hwidth⟩ := readMentionOf_eq_some hof
    have hk := List.length_pos_of_ne_nil (vocabulary_ne_nil (aggregateKeywords_sub_vocabulary k hk))
    have hblanks := runLength_add_length isBlank behind
    have hname := runLength_add_length isWordChar (behind.dropWhile isBlank)
    have htail := pointerTail_le ((behind.dropWhile isBlank).dropWhile isWordChar)
    rw [hwidth, List.length_append]
    omega

/-! ### Composite expressions -/

theorem compositeTail_append_delimiter {d : Char} (h : Delimiter d) (a b : Text) :
    compositeTail (a ++ d :: b) = compositeTail a := by
  simp only [compositeTail, Delimiter.dropWhile_append h.notBlank,
    Delimiter.runLength_append h.notBlank,
    Delimiter.dropWhile_append (p := (· == '*')) h.star_ne,
    Delimiter.runLength_append (p := (· == '*')) h.star_ne, h.inWord_head_append]

/-- Behind a word a delimiter is the end of the line if it is so for what can follow there. -/
theorem endBehind_append_delimiter {d : Char} (h : Delimiter d) {rest b : Text}
    (hshorter : ∀ t : Text, t.length ≤ rest.length →
      compositeEnd (t ++ d :: b) = compositeEnd t) :
    endBehind (rest ++ d :: b) = endBehind rest := by
  have hdropped : (rest.dropWhile isBlank).length ≤ rest.length :=
    (List.dropWhile_suffix _).length_le
  rw [endBehind, endBehind, h.inWord_head_append, Delimiter.dropWhile_append h.notBlank,
    hshorter rest (Nat.le_refl _), hshorter _ hdropped, Delimiter.runLength_append h.notBlank,
    compositeTail_append_delimiter h]

theorem compositeEnd_append_delimiter {d : Char} (h : Delimiter d) (a b : Text) :
    compositeEnd (a ++ d :: b) = compositeEnd a := by
  rw [compositeEnd_eq, compositeEnd_eq]
  apply findSome?_congr
  intro k hk
  rw [Delimiter.isPrefixOf?_append (h.not_mem_of_word (isWordChar_of_mem_vocabulary hk))]
  cases hdrop : k.isPrefixOf? a with
  | none => rfl
  | some rest =>
    have hlen : a.length = k.length + rest.length := by
      rw [← List.append_eq_of_isPrefixOf?_eq_some hdrop, List.length_append]
    have hpos := List.length_pos_of_ne_nil (vocabulary_ne_nil hk)
    -- the recursion of the expression: what follows a word is shorter
    have hshorter : ∀ t : Text, t.length ≤ rest.length →
        compositeEnd (t ++ d :: b) = compositeEnd t := by
      intro t ht
      exact compositeEnd_append_delimiter h t b
    rw [Option.map_some, Option.bind_some, Option.bind_some, endBehind_append_delimiter h hshorter]
termination_by a.length

theorem readComposite_local {d : Char} (h : Delimiter d) : Reader.Local readComposite d where
  start text := by
    rw [readComposite_eq, readComposite_eq, isBoundary, isBoundary,
      show inWord (some d) = inWord none from h.notWord]
  stop before b := by
    have hnone : compositeEnd (d :: b) = none := compositeEnd_eq_none_of_head h.notWord
    rw [readComposite_eq, hnone, Option.map_none, ite_self]
  front before a b hne := by
    rw [readComposite_eq, readComposite_eq, compositeEnd_append_delimiter h, isBoundary,
      isBoundary, h.inWord_head_append]
  width before a found hread := by
    exact compositeEnd_bounds (readComposite_eq_some hread).2

/-! ## Finds on both sides -/

section Sides

variable {α : Type} {read : Reader α} {d : Char} {a b : Text}

/-- A find on the left side lies within that side. -/
theorem Reader.Local.bound (h : read.Local d) {line : Text} {p : Nat} {found : Found α}
    (hmem : (p, found) ∈ occurrences read line) :
    0 < found.width ∧ p + found.width ≤ line.length := by
  obtain ⟨passed, rest, rfl, -, rfl, hread⟩ := mem_occurrences hmem
  obtain ⟨hpos, hle⟩ := h.width _ _ _ hread
  refine ⟨hpos, ?_⟩
  rw [List.length_append]
  omega

/-- **The finds of a line with a delimiter are those of its two sides.** -/
theorem occurrences_append_delimiter (h : read.Local d) (a b : Text) :
    occurrences read (a ++ d :: b) =
      occurrences read a ++ (occurrences read b).map fun e => (e.1 + (a.length + 1), e.2) := by
  have hfits : ∀ passed rest, a = passed ++ rest → rest ≠ [] → ∀ found,
      read (lastOr none passed) (rest ++ d :: b) = some found → found.width ≤ rest.length := by
    intro passed rest _ hne found hread
    rw [h.front _ _ _ hne] at hread
    exact (h.width _ _ _ hread).2
  have hleft : occurrencesFrom (fun before text => read before (text ++ d :: b)) 0 none 0 a =
      occurrences read a := by
    apply occurrencesFrom_congr
    intro passed rest _ hne
    exact h.front _ rest b hne
  have hright : occurrencesFrom read (0 + a.length) (lastOr none a) 0 (d :: b) =
      occurrencesFrom read (0 + (a.length + 1)) none 0 b := by
    rw [occurrencesFrom, h.stop]
    show occurrencesFrom read (0 + a.length + 1) (some d) 0 b = _
    rw [Nat.add_assoc]
    -- the first place of the right side has the delimiter before it, all others have not
    cases b with
    | nil => rfl
    | cons c b => rw [occurrencesFrom, occurrencesFrom, h.start]
  rw [occurrences, occurrencesFrom_append (Nat.zero_le _) hfits, hleft, hright,
    occurrencesFrom_add]
  rfl

/-- A cursor on the left side touches no find of the right one. -/
theorem firstTouching_append_left (h : read.Local d) {c : Int} (hc : c ≤ a.length) :
    firstTouching read (a ++ d :: b) c = firstTouching read a c := by
  rw [firstTouching, occurrences_append_delimiter h, List.find?_append]
  have hnone : ((occurrences read b).map fun e => (e.1 + (a.length + 1), e.2)).find?
      (fun e => (e.2.span e.1).touches c) = none := by
    rw [List.find?_eq_none]
    intro e he htouch
    obtain ⟨⟨p, found⟩, -, rfl⟩ := List.mem_map.mp he
    have hstart : ((p + (a.length + 1) : Nat) : Int) ≤ c := (Span.touches_iff.mp htouch).1
    omega
  rw [hnone, Option.or_none, firstTouching]

/-- A cursor on the right side touches no find of the left one. -/
theorem firstTouching_append_right (h : read.Local d) {c : Int} (hc : 0 ≤ c) :
    firstTouching read (a ++ d :: b) (a.length + 1 + c) =
      (firstTouching read b c).map fun e => (e.1 + (a.length + 1), e.2) := by
  rw [firstTouching, occurrences_append_delimiter h, List.find?_append]
  have hnone : (occurrences read a).find?
      (fun e => (e.2.span e.1).touches (a.length + 1 + c)) = none := by
    rw [List.find?_eq_none]
    rintro ⟨p, found⟩ hmem htouch
    have hbound := (h.bound hmem).2
    have hstop : (a.length + 1 + c : Int) ≤ (p + found.width : Nat) :=
      (Span.touches_iff.mp htouch).2
    omega
  rw [hnone, Option.none_or, List.find?_map, firstTouching]
  congr 2
  funext e
  rw [Function.comp_apply, Bool.eq_iff_iff, Span.touches_iff, Span.touches_iff]
  simp only [Found.span]
  omega

/-- What a find of the left side takes is the same in the whole line. -/
theorem Found.slice_append_left {found : Found α} {p : Nat} {x : Text} (y : Text)
    (h : p + found.width ≤ x.length) : found.slice p (x ++ y) = found.slice p x := by
  rw [Found.slice, Found.slice, List.drop_append_of_le_length (by omega),
    List.take_append_of_le_length (by rw [List.length_drop]; omega)]

theorem Found.slice_append_right {found : Found α} {p n : Nat} {x : Text} (y : Text)
    (h : x.length = n) : found.slice (p + n) (x ++ y) = found.slice p y := by
  rw [Found.slice, Found.slice, ← h, Nat.add_comm p, ← List.drop_drop, List.drop_left]

end Sides

/-! ## Sightings on both sides -/

/-- The same sighting `n` places further on. -/
def Sighting.shift (n : Int) (s : Sighting) : Sighting :=
  ⟨s.text, ⟨s.span.start + n, s.span.stop + n⟩⟩

/-- A way to see that sees on either side of a delimiter what it sees when that side is the whole
line. -/
structure SeesSides (see : Text → Int → Option Sighting) (d : Char) : Prop where
  left : ∀ a b (c : Int), c ≤ a.length → see (a ++ d :: b) c = see a c
  right : ∀ a b (c : Int), 0 ≤ c →
    see (a ++ d :: b) (a.length + 1 + c) = (see b c).map (Sighting.shift (a.length + 1))

namespace SeesSides

variable {d : Char}

/-- The first find at the cursor is seen so when its presentation depends only on what it takes and
on where the cursor is in it. -/
theorem of_firstTouching {α : Type} {read : Reader α} (h : read.Local d)
    {view : Text → Int → Nat × Found α → Sighting}
    (hleft : ∀ x y c p (found : Found α), p + found.width ≤ x.length →
      view (x ++ y) c (p, found) = view x c (p, found))
    (hright : ∀ x y c p (found : Found α),
      view (x ++ y) (x.length + c) (p + x.length, found) =
        (view y c (p, found)).shift x.length) :
    SeesSides (fun line c => (firstTouching read line c).map (view line c)) d where
  left a b c hc := by
    simp only [firstTouching_append_left h hc]
    cases hfirst : firstTouching read a c with
    | none => rfl
    | some e =>
      have hmem : e ∈ occurrences read a := List.mem_of_find?_eq_some hfirst
      exact congrArg some (hleft _ _ _ _ _ (h.bound hmem).2)
  right a b c hc := by
    simp only [firstTouching_append_right h hc, Option.map_map]
    congr 1
    funext e
    have hview := hright (a ++ [d]) b c e.1 e.2
    rw [List.append_assoc, List.singleton_append, List.length_append, List.length_singleton]
      at hview
    exact hview

/-- A test of the text alone does not look beyond the delimiter either. -/
theorem filter {see : Text → Int → Option Sighting} (h : SeesSides see d) (p : Text → Bool) :
    SeesSides (fun line c => (see line c).filter fun s => p s.text) d where
  left a b c hc := by
    simp only [h.left a b c hc]
  right a b c hc := by
    simp only [h.right a b c hc, Option.filter_map]
    rfl

theorem seeMention (h : Delimiter d) : SeesSides Strategy.seeMention d := by
  refine of_firstTouching (readMention_local h) ?_ ?_
  · intro x y c p found hle
    simp only [Found.slice_append_left y hle]
  · intro x y c p found
    simp only [Found.slice_append_right y rfl]
    have htouch : ∀ n : Nat, (⟨(p + x.length + n : Nat), (p + x.length + n +
        found.value.name.length : Nat)⟩ : Span).touches (x.length + c) =
        (⟨(p + n : Nat), (p + n + found.value.name.length : Nat)⟩ : Span).touches c := by
      intro n
      rw [Bool.eq_iff_iff, Span.touches_iff, Span.touches_iff]
      dsimp only
      omega
    rw [htouch]
    split <;> simp only [Sighting.shift, Found.span, Sighting.mk.injEq, Span.mk.injEq, true_and]
      <;> omega

theorem touchingWord (h : Delimiter d) : SeesSides TypeLens.touchingWord d := by
  have hview : SeesSides (fun line c => (firstTouching readWord line c).map fun e =>
      ⟨e.2.value, e.2.span e.1⟩) d := by
    refine of_firstTouching (readWord_local h) ?_ ?_
    · intro x y c p found _
      rfl
    · intro x y c p found
      simp only [Sighting.shift, Found.span, Sighting.mk.injEq, Span.mk.injEq, true_and]
      omega
  simpa only [← touchingWord_eq] using hview

theorem seeComposite (h : Delimiter d) : SeesSides Strategy.seeComposite d := by
  refine of_firstTouching (readComposite_local h) ?_ ?_
  · intro x y c p found hle
    simp only [Found.slice_append_left y hle]
  · intro x y c p found
    simp only [Found.slice_append_right y rfl, Sighting.shift, Found.span, Sighting.mk.injEq,
      Span.mk.injEq, true_and]
    omega

/-- Every strategy sees each side by itself. -/
theorem see (h : Delimiter d) (known : List Text) (s : Strategy) :
    SeesSides (fun line c => s.see known line c) d := by
  cases s with
  | aggregateMention => exact seeMention h
  | knownName => exact (touchingWord h).filter known.contains
  | composite => exact seeComposite h
  | loneKeyword => exact (touchingWord h).filter vocabulary.contains

/-- The first of several ways to see sees each side by itself if all of them do. -/
theorem findSome? {β : Type} {see : β → Text → Int → Option Sighting}
    (h : ∀ s, SeesSides (see s) d) (l : List β) :
    SeesSides (fun line c => l.findSome? fun s => see s line c) d where
  left a b c hc := findSome?_congr fun s _ => (h s).left a b c hc
  right a b c hc := by
    rw [List.map_findSome?]
    exact findSome?_congr fun s _ => (h s).right a b c hc

end SeesSides

/-- **Locality.** On either side of a delimiter the same type expression is seen as if that side
were the whole line. -/
theorem locate_append_delimiter (known : List Text) {d : Char} (hd : Delimiter d) (a b : Text) :
    (∀ c : Int, c ≤ a.length → locate known (a ++ d :: b) c = locate known a c) ∧
    (∀ c : Int, 0 ≤ c →
      locate known (a ++ d :: b) (a.length + 1 + c) =
        (locate known b c).map (Sighting.shift (a.length + 1))) := by
  have hsides := SeesSides.findSome? (fun s => SeesSides.see hd known s) Strategy.all
  refine ⟨fun c hc => ?_, fun c hc => ?_⟩
  · exact hsides.left a b c hc
  · exact hsides.right a b c hc

/-- Two declarations in one line: directly behind the first star, and directly behind the
delimiter. -/
theorem locate_two_declarations :
    Delimiter ';' ∧
    locate ["Foo".toList] "int  *p;struct Foo x".toList 6 = some ⟨"int *".toList, ⟨0, 6⟩⟩ ∧
    locate ["Foo".toList] "int  *p;struct Foo x".toList 8 =
      some ⟨"struct Foo".toList, ⟨8, 18⟩⟩ := by
  have hd : Delimiter ';' := ⟨by decide, by decide, by decide⟩
  obtain ⟨hleft, hright⟩ :=
    locate_append_delimiter ["Foo".toList] hd "int  *p".toList "struct Foo x".toList
  refine ⟨hd, ?_, ?_⟩
  · exact (hleft 6 (by decide)).trans (by decide +kernel)
  · exact (hright 0 (by decide)).trans (by decide +kernel)

end TypeLens
