/-
# TypeLens.Proofs.MentionHover -- aggregates named with their keyword, in any line

An aggregate keyword, blanks and a name in the middle of a line are recognised whatever stands around
them, as long as neither word goes on and no keyword before them takes theirs for a name
(`Introduced`). A cursor on the name sees the name. A cursor between the start of the keyword and the
name sees both, single-spaced, and stars behind them exactly when a word follows those directly. If
the name has a size, the first is the aggregate of that size, and so is the second without stars;
with stars it is a pointer to it (`atCursor_mention`).

Nothing else on the line matters because the scan reaches the keyword: what is found before it ends
before it (`Introduced.earlier_le`). It may end directly before it, with a star, and so a cursor at
the start of the keyword is left out.
-/
import TypeLens.Proofs.BuiltinHover
import TypeLens.Proofs.Locate.Groups

namespace TypeLens

/-! ## Where the scan finds a mention -/

/-- A keyword, a gap and a name between the texts `p` and `q`. Neither word goes on in them, and the
last word of `p` is no keyword that would take this one for the name of an aggregate. -/
@[mk_iff] structure Introduced (p keyword gap name q : Text) : Prop where
  keyword_mem : keyword ∈ aggregateKeywords
  gap_ne_nil : gap ≠ []
  gap_blank : ∀ c ∈ gap, isBlank c = true
  name_ne_nil : name ≠ []
  name_chars : ∀ c ∈ name, isWordChar c = true
  noWordBefore : inWord p.getLast? = false
  noKeywordBefore : lastWord p ∉ aggregateKeywords
  noWordBehind : inWord q.head? = false

instance (p keyword gap name q : Text) : Decidable (Introduced p keyword gap name q) :=
  decidable_of_iff
    (keyword ∈ aggregateKeywords ∧ gap ≠ [] ∧ gap.all isBlank = true ∧ name ≠ [] ∧
      name.all isWordChar = true ∧ inWord p.getLast? = false ∧ lastWord p ∉ aggregateKeywords ∧
      inWord q.head? = false)
    (by rw [introduced_iff, List.all_eq_true, List.all_eq_true])

/-- The mention that a reader finds in front of `q`. -/
def mentionOf (keyword gap name q : Text) : Found Mention :=
  ⟨⟨name, keyword.length + gap.length⟩,
    keyword.length + gap.length + name.length + pointerTail q⟩

namespace Introduced

variable {p keyword gap name q : Text}

theorem readMentionOf_eq (h : Introduced p keyword gap name q) :
    readMentionOf keyword (keyword ++ gap ++ name ++ q) = some (mentionOf keyword gap name q) := by
  have hstart : startsBlank (name ++ q) = false := by
    obtain ⟨c, rest, hname⟩ := List.exists_cons_of_ne_nil h.name_ne_nil
    rw [hname]
    exact isBlank_of_isWordChar (h.name_chars c (by simp [hname]))
  have hdrop : (gap ++ (name ++ q)).dropWhile isBlank = name ++ q := by
    rw [List.dropWhile_append_of_pos h.gap_blank, dropWhile_eq_self_of_startsBlank hstart]
  have hgap : (gap ++ (name ++ q)).takeWhile isBlank = gap := by
    have hsplit := List.takeWhile_append_dropWhile (p := isBlank) (l := gap ++ (name ++ q))
    rw [hdrop] at hsplit
    exact List.append_cancel_right hsplit
  have hname := takeWhile_word_append h.name_chars h.noWordBehind
  have htail : (name ++ q).dropWhile isWordChar = q := by
    have hsplit := List.takeWhile_append_dropWhile (p := isWordChar) (l := name ++ q)
    rw [hname] at hsplit
    exact List.append_cancel_left hsplit
  rw [readMentionOf, List.append_assoc, List.append_assoc,
    List.isPrefixOf?_eq_some_iff_append_eq.mpr rfl]
  simp only [hgap, hdrop, hname, htail]
  rw [if_neg (by simp [h.gap_ne_nil, h.name_ne_nil])]
  rfl

/-- The keyword is the first word of the text, so no other keyword reads anything there. -/
theorem readMention_eq (h : Introduced p keyword gap name q) :
    readMention p.getLast? (keyword ++ gap ++ name ++ q) =
      some (mentionOf keyword gap name q) := by
  have hof := h.readMentionOf_eq
  rw [readMention, if_neg (by simp [h.noWordBefore])]
  have hsome : (aggregateKeywords.findSome?
      (readMentionOf · (keyword ++ gap ++ name ++ q))).isSome = true := by
    rw [List.findSome?_isSome_iff]
    exact ⟨keyword, h.keyword_mem, by rw [hof]; rfl⟩
  obtain ⟨found, hfound⟩ := Option.isSome_iff_exists.mp hsome
  obtain ⟨k, hk, hread⟩ := List.exists_of_findSome?_eq_some hfound
  have hsame : k = keyword :=
    (takeWhile_of_readMentionOf hk hread).symm.trans (takeWhile_of_readMentionOf h.keyword_mem hof)
  rw [hfound, ← hread, hsame, hof]

/-- What is read before the keyword ends before it. Its own keyword ends in `p`, its name begins
there since it is not ours, and the blanks and stars behind the name stop at our keyword. -/
theorem earlier_le (h : Introduced p keyword gap name q) {passed rest y : Text}
    {earlier : Found Mention} (hp : p = passed ++ rest) (hne : rest ≠ [])
    (hy : inWord y.head? = true) (hread : readMention passed.getLast? (rest ++ y) = some earlier) :
    earlier.width ≤ rest.length := by
  obtain ⟨hbefore, k, gap', name', tail, hparts⟩ := exists_mentionParts hread
  have hk := (keywordRun_of_mem_aggregateKeywords hparts.keyword_mem)
  have hlast : inWord rest.getLast? = false := by
    have hword := h.noWordBefore
    rwa [hp, List.getLast?_append_of_ne_nil _ hne] at hword
  have htext : rest ++ y = k ++ (gap' ++ (name' ++ tail)) := by
    rw [hparts.text_eq, List.append_assoc, List.append_assoc]
  obtain ⟨r, -, rfl, hgap⟩ := exists_of_word_append hne hlast hk.isWordChar htext
  -- the blanks end in `p`, since `y` begins with a word
  obtain ⟨r, rfl, hname⟩ : ∃ r', r = gap' ++ r' ∧ name' ++ tail = r' ++ y := by
    rcases List.append_eq_append_iff.mp hgap with ⟨r', hr, hrest⟩ | ⟨b, hb, hrest⟩
    · exact ⟨r', hr, hrest⟩
    · cases b with
      | nil => exact ⟨[], by rw [hb, List.append_nil, List.append_nil], by rw [hrest]; rfl⟩
      | cons c b =>
        rw [hrest] at hy
        have hc : inWord (some c) = false :=
          inWord_of_blank (hparts.gap_blank c (by rw [hb]; simp))
        exact absurd (hc.symm.trans hy) Bool.false_ne_true
  have hr : r ≠ [] := by
    rintro rfl
    apply h.noKeywordBefore
    rw [hp, List.append_nil, ← List.append_assoc,
      lastWord_append hbefore hk.isWordChar hk.ne_nil hparts.gap_blank]
    exact hparts.keyword_mem
  rw [← List.append_assoc, List.getLast?_append_of_ne_nil _ hr] at hlast
  obtain ⟨r, -, rfl, rfl⟩ := exists_of_word_append hr hlast hparts.name_chars hname.symm
  have htail : pointerTail (r ++ y) ≤ r.length :=
    Nat.le_trans (pointerTail_le_compositeTail _) (compositeTail_le_of_word hy)
  rw [hparts.width_eq]
  simp only [List.length_append]
  omega

/-- The mention is what a cursor behind the start of the keyword touches first. -/
theorem firstTouching_eq (h : Introduced p keyword gap name q) {c : Int} (hlow : p.length < c)
    (hhigh : c ≤ (p.length + (mentionOf keyword gap name q).width : Nat)) :
    firstTouching readMention (p ++ (keyword ++ gap ++ name ++ q)) c =
      some (p.length, mentionOf keyword gap name q) := by
  have hword : inWord (keyword ++ gap ++ name ++ q).head? = true := by
    rw [List.append_assoc, List.append_assoc]
    exact (keywordRun_of_mem_aggregateKeywords h.keyword_mem).inWord_head _
  apply firstTouching_append
  · intro passed rest hp hne earlier hread
    have hwidth := h.earlier_le hp hne hword hread
    rw [hp, List.length_append] at hlow
    refine ⟨hwidth, ?_⟩
    omega
  · intro hnil
    rw [hnil] at hword
    exact Bool.false_ne_true hword
  · exact h.readMention_eq
  · rw [Span.touches_iff]
    exact ⟨hlow.le, hhigh⟩

/-! ## What is seen of it -/

theorem locate_eq (h : Introduced p keyword gap name q) (known : List Text) {c : Int}
    (hlow : p.length < c)
    (hhigh : c ≤ (p.length + (mentionOf keyword gap name q).width : Nat)) :
    locate known (p ++ keyword ++ gap ++ name ++ q) c =
      some ((mentionOf keyword gap name q).seen p.length (p ++ (keyword ++ gap ++ name ++ q)) c) := by
  have hline : p ++ keyword ++ gap ++ name ++ q = p ++ (keyword ++ gap ++ name ++ q) := by
    simp only [List.append_assoc]
  have hsee : Strategy.seeMention (p ++ (keyword ++ gap ++ name ++ q)) c =
      some ((mentionOf keyword gap name q).seen p.length
        (p ++ (keyword ++ gap ++ name ++ q)) c) := by
    rw [seeMention_eq, h.firstTouching_eq hlow hhigh, Option.map_some]
  rw [hline]
  simp only [locate, Strategy.all, List.findSome?_cons, Strategy.see, hsee]

/-- On the name, the name is seen. -/
theorem locate_name (h : Introduced p keyword gap name q) (known : List Text) {c : Int}
    (hlow : (p.length + keyword.length + gap.length : Nat) ≤ c)
    (hhigh : c ≤ (p.length + keyword.length + gap.length + name.length : Nat)) :
    locate known (p ++ keyword ++ gap ++ name ++ q) c =
      some ⟨name, ⟨(p.length + keyword.length + gap.length : Nat),
        (p.length + keyword.length + gap.length + name.length : Nat)⟩⟩ := by
  have hgap := List.length_pos_of_ne_nil h.gap_ne_nil
  have hspan : (mentionOf keyword gap name q).nameSpan p.length =
      ⟨(p.length + keyword.length + gap.length : Nat),
        (p.length + keyword.length + gap.length + name.length : Nat)⟩ := by
    simp only [Found.nameSpan, mentionOf, Nat.add_assoc]
  have htouch : ((mentionOf keyword gap name q).nameSpan p.length).touches c = true := by
    rw [hspan, Span.touches_iff]
    exact ⟨hlow, hhigh⟩
  rw [h.locate_eq known (by omega) (by simp only [mentionOf]; omega), Found.seen, if_pos htouch,
    hspan]
  rfl

/-- Between the start of the keyword and the name, all of the mention is seen. -/
theorem locate_keyword (h : Introduced p keyword gap name q) (known : List Text) {c : Int}
    (hlow : p.length < c) (hhigh : c < (p.length + keyword.length + gap.length : Nat)) :
    locate known (p ++ keyword ++ gap ++ name ++ q) c =
      some ⟨collapse (keyword ++ gap ++ name ++ q.take (pointerTail q)), ⟨p.length,
        (p.length + keyword.length + gap.length + name.length + pointerTail q : Nat)⟩⟩ := by
  have hoff : ¬ ((mentionOf keyword gap name q).nameSpan p.length).touches c = true := by
    rw [Span.touches_iff]
    simp only [Found.nameSpan, mentionOf]
    omega
  have hslice : (mentionOf keyword gap name q).slice p.length
      (p ++ (keyword ++ gap ++ name ++ q)) = keyword ++ gap ++ name ++ q.take (pointerTail q) := by
    have hwidth : (mentionOf keyword gap name q).width =
        (keyword ++ gap ++ name).length + pointerTail q := by
      simp only [mentionOf, List.length_append]
    rw [Found.slice, List.drop_left, hwidth, List.take_length_add_append]
  rw [h.locate_eq known hlow (by simp only [mentionOf]; omega), Found.seen, if_neg hoff, hslice]
  simp only [Found.span, mentionOf, Nat.add_assoc]

end Introduced

/-! ## Stars behind a mention -/

theorem Starred.pointerTail_eq {space stars q : Text} (h : Starred space stars q) :
    pointerTail q = space.length + stars.length ∧ q.take (pointerTail q) = space ++ stars := by
  obtain ⟨hspace, hstars, hword⟩ := h.runs
  have htail : pointerTail q = space.length + stars.length := by
    simp only [pointerTail, hspace, hstars, hword]
    rw [if_pos (by simp [h.stars_ne_nil])]
  refine ⟨htail, ?_⟩
  obtain ⟨rest, hq, -⟩ := h.word
  rw [htail, ← List.length_append, hq, List.take_left]

theorem pointerTail_eq_zero {q : Text} (h : ∀ space stars, ¬ Starred space stars q) :
    pointerTail q = 0 := by
  rw [pointerTail]
  apply if_neg
  intro hstars
  rw [Bool.and_eq_true, Bool.not_eq_true', List.isEmpty_eq_false_iff] at hstars
  exact h _ _ (starred_of_runs hstars.1 hstars.2)

namespace Introduced

variable {p keyword gap name q : Text}

theorem spelled (h : Introduced p keyword gap name q) :
    Spelled [keyword, name] (keyword ++ gap ++ name) :=
  .more keyword h.gap_ne_nil h.gap_blank (.one name)

theorem words_plain (h : Introduced p keyword gap name q) :
    ∀ w ∈ [keyword, name], w ≠ [] ∧ ∀ c ∈ w, isBlank c = false ∧ c ≠ '*' := by
  have hplain : ∀ {w : Text}, (∀ c ∈ w, isWordChar c = true) →
      ∀ c ∈ w, isBlank c = false ∧ c ≠ '*' :=
    fun hw c hc => ⟨isBlank_of_isWordChar (hw c hc), ne_star_of_isWordChar (hw c hc)⟩
  have hk := keywordRun_of_mem_aggregateKeywords h.keyword_mem
  intro w hw
  simp only [List.mem_cons, List.not_mem_nil, or_false] at hw
  rcases hw with rfl | rfl
  · exact ⟨hk.ne_nil, hplain hk.isWordChar⟩
  · exact ⟨h.name_ne_nil, hplain h.name_chars⟩

theorem words_noBlank (h : Introduced p keyword gap name q) :
    ∀ w ∈ [keyword, name], w ≠ [] ∧ ∀ c ∈ w, isBlank c = false :=
  fun w hw => ⟨(h.words_plain w hw).1, fun c hc => ((h.words_plain w hw).2 c hc).1⟩

/-- The mention without stars, single-spaced. -/
theorem collapse_eq (h : Introduced p keyword gap name q)
    (hnone : ∀ space stars, ¬ Starred space stars q) :
    collapse (keyword ++ gap ++ name ++ q.take (pointerTail q)) = keyword ++ [' '] ++ name := by
  rw [pointerTail_eq_zero hnone, List.take_zero, List.append_nil, collapse_eq_joinWords,
    h.spelled.words_eq h.words_noBlank, joinWords_pair]

/-- The mention with stars, single-spaced. -/
theorem collapse_starred (h : Introduced p keyword gap name q) {space stars : Text}
    (hstarred : Starred space stars q) :
    collapse (keyword ++ gap ++ name ++ q.take (pointerTail q)) =
      keyword ++ [' '] ++ name ++ (if space = [] then [] else [' ']) ++ stars := by
  rw [hstarred.pointerTail_eq.2, TypeLens.collapse_starred (by simp [h.gap_ne_nil])
    (h.spelled.startsBlank_eq h.words_noBlank) (h.spelled.endsBlank_eq h.words_noBlank) hstarred,
    h.spelled.squeeze_eq h.words_noBlank, joinWords_pair]

end Introduced

/-! ## Sizes of names -/

namespace Layout

/-- A name that has a size is an aggregate of that size. -/
theorem plainShape?_of_get? {sizes : SizeMap} {name : Text} {size : Int}
    (h : sizes.get? name = some size) (width : Width) :
    plainShape? width sizes name = some (.aggregate size) := by
  rw [plainShape?, SizeMap.find?, h]
  rfl

/-- A keyword before the name changes nothing, unless the two together have a size of their own. -/
theorem plainShape?_keyword {sizes : SizeMap} {keyword name : Text} {size : Int}
    (hk : keyword ∈ aggregateKeywords) (hname : trim name = name)
    (hboth : sizes.get? (keyword ++ [' '] ++ name) = none) (h : sizes.get? name = some size)
    (width : Width) :
    plainShape? width sizes (keyword ++ [' '] ++ name) = some (.aggregate size) := by
  have htext : keyword ++ [' '] ++ name = keyword ++ ' ' :: name := by
    rw [List.append_assoc, List.singleton_append]
  have hfind : sizes.find? (keyword ++ [' '] ++ name) = some size := by
    rw [htext] at hboth ⊢
    rw [sizes.find?_append_blank (isBlank_of_mem_keyword hk) isBlank_space, hboth,
      if_pos ⟨hk, rfl⟩, hname, h]
    rfl
  rw [plainShape?, hfind]

/-- **Aggregates are recognised by their names.** On a name that its keyword introduces, the name is
located, and the layout is the aggregate of the size that the name has. Between the start of the
keyword and the name both are located, with stars that a word follows directly, and the layout is
the same aggregate, or a pointer to it if there are such stars. -/
theorem atCursor_mention {p keyword gap name q : Text} (h : Introduced p keyword gap name q)
    (known : List Text) (c : Int) :
    let line := p ++ keyword ++ gap ++ name ++ q
    let nameStart := p.length + keyword.length + gap.length
    let nameStop := nameStart + name.length
    let both := keyword ++ [' '] ++ name
    ((nameStart : Int) ≤ c → c ≤ nameStop →
      locate known line c = some ⟨name, ⟨nameStart, nameStop⟩⟩ ∧
      ∀ width sizes size, SizeMap.get? sizes name = some size →
        atCursor? width known sizes line c =
          some ⟨name, some ⟨nameStart, nameStop⟩, .aggregate size⟩) ∧
    (p.length < c → c < nameStart →
      (∀ space stars, Starred space stars q →
        let text := both ++ (if space = [] then [] else [' ']) ++ stars
        let span : Span := ⟨p.length, (nameStop + (space.length + stars.length) : Nat)⟩
        locate known line c = some ⟨text, span⟩ ∧
        ∀ width sizes size, SizeMap.get? sizes name = some size →
          SizeMap.get? sizes both = none →
          atCursor? width known sizes line c =
            some ⟨text, some span, .pointer width.pointerSize
              (some ⟨both, (Shape.aggregate size).description⟩)⟩) ∧
      ((∀ space stars, ¬ Starred space stars q) →
        locate known line c = some ⟨both, ⟨p.length, nameStop⟩⟩ ∧
        ∀ width sizes size, SizeMap.get? sizes name = some size →
          SizeMap.get? sizes both = none →
          atCursor? width known sizes line c =
            some ⟨both, some ⟨p.length, nameStop⟩, .aggregate size⟩)) := by
  intro line nameStart nameStop both
  obtain ⟨hne, hchars⟩ := h.words_plain name (by simp)
  have hname : PlainName name := .of_word hne hchars
  have hboth : PlainName (joinWords [keyword, name]) := .of_words (by simp) h.words_plain
  rw [joinWords_pair] at hboth
  refine ⟨?_, ?_⟩
  · intro hlow hhigh
    have hlocate := h.locate_name known hlow hhigh
    refine ⟨hlocate, ?_⟩
    intro width sizes size hsize
    exact atCursor?_of_locate hlocate (hname.ofText?_eq (plainShape?_of_get? hsize width))
  · intro hlow hhigh
    have hlocate := h.locate_keyword known hlow hhigh
    have hshape : ∀ {sizes : SizeMap} {size : Int}, sizes.get? name = some size →
        sizes.get? both = none → ∀ width, plainShape? width sizes both = some (.aggregate size) :=
      fun hsize hnone width => plainShape?_keyword h.keyword_mem hname.trim_eq hnone hsize width
    refine ⟨?_, ?_⟩
    · intro space stars hstarred text span
      rw [h.collapse_starred hstarred, hstarred.pointerTail_eq.1] at hlocate
      refine ⟨hlocate, ?_⟩
      intro width sizes size hsize hnone
      have hspace : ∀ c ∈ (if space = [] then [] else [' '] : Text), isBlank c = true := by
        split
        · simp
        · simp [isBlank_space]
      exact atCursor?_of_locate hlocate (hboth.ofText?_append_stars (hshape hsize hnone width)
        hspace hstarred.star_stars hstarred.stars_ne_nil)
    · intro hnone
      rw [h.collapse_eq hnone, pointerTail_eq_zero hnone] at hlocate
      refine ⟨hlocate, ?_⟩
      intro width sizes size hsize hfree
      exact atCursor?_of_locate hlocate (hboth.ofText?_eq (hshape hsize hfree width))

/-- The second of two mentions, directly behind the stars of the first: its name, its keyword in
front of stars that a word follows, and its keyword in front of stars that no word follows. -/
theorem atCursor_second_mention :
    let sizes : SizeMap := [("Node".toList, 24)]
    atCursor? .bits64 [] sizes "struct A *union\t Node *p".toList 21 =
      some ⟨"Node".toList, some ⟨17, 21⟩, .aggregate 24⟩ ∧
    atCursor? .bits64 [] sizes "struct A *union\t Node *p".toList 11 =
      some ⟨"union Node *".toList, some ⟨10, 23⟩,
        .pointer 8 (some ⟨"union Node".toList, "User-defined type".toList⟩)⟩ ∧
    atCursor? .bits32 [] sizes "struct A *union\t Node * p".toList 16 =
      some ⟨"union Node".toList, some ⟨10, 21⟩, .aggregate 24⟩ := by
  intro sizes
  have hstar : Introduced "struct A *".toList "union".toList "\t ".toList "Node".toList
      " *p".toList := by decide +kernel
  have hplain : Introduced "struct A *".toList "union".toList "\t ".toList "Node".toList
      " * p".toList := by decide +kernel
  have hsize : sizes.get? "Node".toList = some 24 := by decide
  have hboth : sizes.get? ("union".toList ++ [' '] ++ "Node".toList) = none := by decide
  refine ⟨?_, ?_, ?_⟩
  · exact ((atCursor_mention hstar [] 21).1 (by decide) (by decide)).2 .bits64 sizes 24 hsize
  · have hstarred : Starred " ".toList "*".toList " *p".toList :=
      ⟨List.all_eq_true.mp (by decide), by simp, by decide, "p".toList, by decide, by decide⟩
    exact (((atCursor_mention hstar [] 11).2 (by decide) (by decide)).1 _ _ hstarred).2
      .bits64 sizes 24 hsize hboth
  · have hnone : ∀ space stars, ¬ Starred space stars " * p".toList := by
      intro space stars hstarred
      have htail : pointerTail " * p".toList = 0 := by decide
      have hlength := hstarred.pointerTail_eq.1
      have hpos := List.length_pos_of_ne_nil hstarred.stars_ne_nil
      omega
    exact (((atCursor_mention hplain [] 16).2 (by decide) (by decide)).2 hnone).2
      .bits32 sizes 24 hsize hboth

end Layout

end TypeLens
