/-
# TypeLens.Proofs.Locate.Occurrences -- where a reader finds something

Facts about the scan from left to right that hold for any reader. A find stands at a place of the
line and is what the reader reads there (`mem_occurrences`); finds come in order of their places;
and where no find of the first part of a line goes beyond that part, the finds of the line are those
of the two parts (`occurrencesFrom_append`). Not every place at which a reader reads something is
reached by the scan; those that are can be told by what lies around them
(`Anchors.mem_occurrences_iff`).

All ways to see a type take the first find that the cursor touches (`firstTouching`), the word at
the cursor included: its search stops early, at the first word behind the cursor, and loses nothing.
-/
import TypeLens.Locate

namespace TypeLens

variable {α : Type} {read : Reader α}

/-! ## Single finds -/

/-- The character before the part of a text that follows `passed`. -/
def lastOr (before : Option Char) (passed : Text) : Option Char := passed.getLast?.or before

@[simp] theorem lastOr_nil (before : Option Char) : lastOr before [] = before := rfl

@[simp] theorem lastOr_cons (before : Option Char) (c : Char) (passed : Text) :
    lastOr before (c :: passed) = lastOr (some c) passed := by
  unfold lastOr
  rw [List.getLast?_cons]
  cases passed.getLast? <;> rfl

/-- Whatever is found was read at a place of the text. -/
theorem mem_occurrencesFrom {start skip p : Nat} {before : Option Char} {text : Text}
    {found : Found α} (h : (p, found) ∈ occurrencesFrom read start before skip text) :
    ∃ passed rest, text = passed ++ rest ∧ rest ≠ [] ∧ p = start + passed.length ∧
      read (lastOr before passed) rest = some found := by
  induction text generalizing start before skip with
  | nil => simp [occurrencesFrom] at h
  | cons c rest ih =>
    -- a find behind the first character is a find of the rest
    have later : ∀ {n}, (p, found) ∈ occurrencesFrom read (start + 1) (some c) n rest →
        ∃ passed rest', c :: rest = passed ++ rest' ∧ rest' ≠ [] ∧ p = start + passed.length ∧
          read (lastOr before passed) rest' = some found := by
      intro n hn
      obtain ⟨passed, rest', htext, hne, hp, hread⟩ := ih hn
      refine ⟨c :: passed, rest', by rw [htext, List.cons_append], hne, ?_, ?_⟩
      · rw [hp, List.length_cons]
        omega
      · rwa [lastOr_cons]
    cases skip with
    | succ n => exact later h
    | zero =>
      rw [occurrencesFrom] at h
      split at h
      · rename_i f hf
        rcases List.mem_cons.mp h with heq | h
        · obtain ⟨rfl, rfl⟩ := Prod.mk.inj heq
          exact ⟨[], c :: rest, rfl, by simp, by simp, hf⟩
        · exact later h
      · exact later h

theorem mem_occurrences {p : Nat} {line : Text} {found : Found α}
    (h : (p, found) ∈ occurrences read line) :
    ∃ passed rest, line = passed ++ rest ∧ rest ≠ [] ∧ p = passed.length ∧
      read passed.getLast? rest = some found := by
  obtain ⟨passed, rest, hline, hne, hp, hread⟩ := mem_occurrencesFrom h
  refine ⟨passed, rest, hline, hne, by omega, ?_⟩
  rwa [lastOr, Option.or_none] at hread

/-- The places of finds ascend. -/
theorem pairwise_occurrencesFrom (read : Reader α) (start : Nat) (before : Option Char) (skip : Nat)
    (text : Text) :
    (occurrencesFrom read start before skip text).Pairwise fun x y => x.1 < y.1 := by
  induction text generalizing start before skip with
  | nil => simp [occurrencesFrom]
  | cons c rest ih =>
    cases skip with
    | succ n => exact ih (start + 1) (some c) n
    | zero =>
      rw [occurrencesFrom]
      split
      · refine List.Pairwise.cons ?_ (ih _ _ _)
        rintro ⟨p, f⟩ hmem
        obtain ⟨passed, _, -, -, hp, -⟩ := mem_occurrencesFrom hmem
        show start < p
        omega
      · exact ih _ _ _

/-! ## Finds of parts -/

/-- Readers that agree at every place of a text find the same in it. -/
theorem occurrencesFrom_congr {read' : Reader α} {start skip : Nat} {before : Option Char}
    {text : Text}
    (h : ∀ passed rest, text = passed ++ rest → rest ≠ [] →
      read (lastOr before passed) rest = read' (lastOr before passed) rest) :
    occurrencesFrom read start before skip text = occurrencesFrom read' start before skip text := by
  induction text generalizing start before skip with
  | nil => simp [occurrencesFrom]
  | cons c rest ih =>
    have hrest : ∀ n, occurrencesFrom read (start + 1) (some c) n rest =
        occurrencesFrom read' (start + 1) (some c) n rest := by
      intro n
      apply ih
      intro passed rest' htext hne
      have := h (c :: passed) rest' (by rw [htext, List.cons_append]) hne
      rwa [lastOr_cons] at this
    cases skip with
    | succ n => exact hrest n
    | zero =>
      have hhere : read before (c :: rest) = read' before (c :: rest) := h [] _ rfl (by simp)
      simp only [occurrencesFrom, hhere, hrest]

/-- A text that starts further on has its finds further on. -/
theorem occurrencesFrom_add (read : Reader α) (start n : Nat) (before : Option Char) (skip : Nat)
    (text : Text) :
    occurrencesFrom read (start + n) before skip text =
      (occurrencesFrom read start before skip text).map fun e => (e.1 + n, e.2) := by
  induction text generalizing start before skip with
  | nil => simp [occurrencesFrom]
  | cons c rest ih =>
    have hstart : start + n + 1 = start + 1 + n := by omega
    cases skip with
    | succ k => rw [occurrencesFrom, hstart, ih, occurrencesFrom]
    | zero =>
      rw [occurrencesFrom, occurrencesFrom]
      split
      · rw [hstart, ih, List.map_cons]
      · rw [hstart, ih]

/-- Where nothing that starts in the first part goes beyond it, the finds are those of the first
part, read with the second one behind it, and those of the second part. -/
theorem occurrencesFrom_append {start skip : Nat} {before : Option Char} {x y : Text}
    (hskip : skip ≤ x.length)
    (hfits : ∀ passed rest, x = passed ++ rest → rest ≠ [] → ∀ found,
      read (lastOr before passed) (rest ++ y) = some found → found.width ≤ rest.length) :
    occurrencesFrom read start before skip (x ++ y) =
      occurrencesFrom (fun b text => read b (text ++ y)) start before skip x ++
        occurrencesFrom read (start + x.length) (lastOr before x) 0 y := by
  induction x generalizing start before skip with
  | nil =>
    obtain rfl : skip = 0 := by simpa using hskip
    simp [occurrencesFrom]
  | cons c rest ih =>
    have hrest : ∀ n ≤ rest.length, occurrencesFrom read (start + 1) (some c) n (rest ++ y) =
        occurrencesFrom (fun b text => read b (text ++ y)) (start + 1) (some c) n rest ++
          occurrencesFrom read (start + (c :: rest).length) (lastOr before (c :: rest)) 0 y := by
      intro n hn
      rw [ih hn]
      · rw [lastOr_cons, List.length_cons, show start + 1 + rest.length = start + (rest.length + 1)
          by omega]
      · intro passed rest' htext hne found hread
        refine hfits (c :: passed) rest' (by rw [htext, List.cons_append]) hne found ?_
        rwa [lastOr_cons]
    cases skip with
    | succ n => exact hrest n (by simpa using hskip)
    | zero =>
      rw [List.cons_append, occurrencesFrom, occurrencesFrom]
      cases hread : read before (c :: (rest ++ y)) with
      | none =>
        simp only [List.cons_append, hread]
        exact hrest 0 (Nat.zero_le _)
      | some found =>
        have hwidth := hfits [] (c :: rest) rfl (by simp) found hread
        simp only [List.cons_append, hread]
        rw [hrest _ (by rw [List.length_cons] at hwidth; omega)]

/-! ## Finds at anchors -/

/-- The places at which a scan stops. `anchor passed rest found` says that the scan stops between
`passed` and `rest` and finds `found` there. Whatever the reader can read starts inside what it
finds at an anchor, and no anchor lies inside what it finds at another. -/
structure Anchors (read : Reader α) (anchor : Text → Text → Found α → Prop) : Prop where
  ne_nil : ∀ {passed rest found}, anchor passed rest found → rest ≠ []
  reads : ∀ {passed rest found}, anchor passed rest found → read passed.getLast? rest = some found
  covers : ∀ {passed rest found}, read passed.getLast? rest = some found →
    ∃ earlier between found', passed = earlier ++ between ∧
      anchor earlier (between ++ rest) found' ∧ between.length < found'.width
  apart : ∀ {earlier between rest found found'}, anchor earlier (between ++ rest) found →
    between ≠ [] → anchor (earlier ++ between) rest found' → found.width ≤ between.length

namespace Anchors

variable {anchor : Text → Text → Found α → Prop}

/-- The anchors of a text: one at its front, or those behind its first character. -/
theorem cons_iff {passed : Text} {c : Char} {rest : Text} {p : Nat} {found : Found α} :
    (∃ next later, c :: rest = next ++ later ∧ p = passed.length + next.length ∧
        anchor (passed ++ next) later found) ↔
      (p = passed.length ∧ anchor passed (c :: rest) found) ∨
        ∃ next later, rest = next ++ later ∧ p = passed.length + 1 + next.length ∧
          anchor (passed ++ [c] ++ next) later found := by
  constructor
  · rintro ⟨next, later, hsplit, hp, hanchor⟩
    cases next with
    | nil =>
      rw [List.nil_append] at hsplit
      rw [List.append_nil, ← hsplit] at hanchor
      exact .inl ⟨hp, hanchor⟩
    | cons d next =>
      obtain ⟨rfl, hrest⟩ := List.cons.inj hsplit
      refine .inr ⟨next, later, hrest, ?_, ?_⟩
      · rw [hp, List.length_cons]
        omega
      · rwa [List.append_assoc, List.singleton_append]
  · rintro (⟨hp, hanchor⟩ | ⟨next, later, hrest, hp, hanchor⟩)
    · exact ⟨[], c :: rest, rfl, hp, by rwa [List.append_nil]⟩
    · refine ⟨c :: next, later, by rw [hrest, List.cons_append], ?_, ?_⟩
      · rw [hp, List.length_cons]
        omega
      · rwa [List.append_assoc, List.singleton_append] at hanchor

/-- The invariant of the scan: what is left to be passed over holds the rest of what was found at
earlier anchors, and no anchor. -/
theorem mem_occurrencesFrom_iff (h : Anchors read anchor) {passed text : Text} {skip : Nat}
    (hreach : ∀ earlier between found, passed = earlier ++ between → between ≠ [] →
      anchor earlier (between ++ text) found → found.width ≤ between.length + skip)
    (hskip : ∀ next rest found, text = next ++ rest → anchor (passed ++ next) rest found →
      skip ≤ next.length) {p : Nat} {found : Found α} :
    (p, found) ∈ occurrencesFrom read passed.length passed.getLast? skip text ↔
      ∃ next rest, text = next ++ rest ∧ p = passed.length + next.length ∧
        anchor (passed ++ next) rest found := by
  induction text generalizing passed skip with
  | nil =>
    refine ⟨fun hmem => by simp [occurrencesFrom] at hmem, ?_⟩
    rintro ⟨next, rest, hnil, -, hanchor⟩
    exact absurd (List.append_eq_nil_iff.mp hnil.symm).2 (h.ne_nil hanchor)
  | cons c rest ih =>
    -- one character further, with `n` characters left to be passed over
    have later : ∀ {n : Nat},
        (∀ found', anchor passed (c :: rest) found' → found'.width ≤ n + 1) → skip ≤ n + 1 →
        (∀ next later found', rest = next ++ later → anchor (passed ++ [c] ++ next) later found' →
          n ≤ next.length) →
        ((p, found) ∈ occurrencesFrom read (passed.length + 1) (some c) n rest ↔
          ∃ next later, rest = next ++ later ∧ p = passed.length + 1 + next.length ∧
            anchor (passed ++ [c] ++ next) later found) := by
      intro n hhere hle hnext
      have hreach' : ∀ earlier between found', passed ++ [c] = earlier ++ between → between ≠ [] →
          anchor earlier (between ++ rest) found' → found'.width ≤ between.length + n := by
        intro earlier between found' hsplit hne hanchor
        obtain ⟨between, d, rfl⟩ : ∃ front d, between = front ++ [d] :=
          ⟨_, _, (List.dropLast_concat_getLast hne).symm⟩
        rw [← List.append_assoc] at hsplit
        obtain ⟨hpassed, hlast⟩ := List.append_inj' hsplit rfl
        obtain rfl : c = d := List.head_eq_of_cons_eq hlast
        rw [List.append_assoc, List.singleton_append] at hanchor
        rw [List.length_append, List.length_singleton]
        by_cases hnil : between = []
        · subst hnil
          rw [List.append_nil] at hpassed
          have := hhere found' (hpassed ▸ hanchor)
          simp only [List.length_nil]
          omega
        · have := hreach earlier between found' hpassed hnil hanchor
          omega
      have hrest := ih hreach' hnext
      rwa [List.getLast?_concat, List.length_append, List.length_singleton] at hrest
    rw [cons_iff]
    cases skip with
    | succ n =>
      have hnone : ∀ found', ¬ anchor passed (c :: rest) found' := by
        intro found' hanchor
        have hle := hskip [] (c :: rest) found' rfl (by rwa [List.append_nil])
        exact absurd hle (Nat.not_succ_le_zero n)
      rw [occurrencesFrom, later (fun f hf => absurd hf (hnone f)) (Nat.le_refl _)]
      · simp [hnone]
      · intro next rest' found' hrest hanchor
        have hle := hskip (c :: next) rest' found' (by rw [hrest, List.cons_append])
          (by rwa [List.append_assoc, List.singleton_append] at hanchor)
        exact Nat.le_of_succ_le_succ hle
    | zero =>
      by_cases hhere : ∃ found', anchor passed (c :: rest) found'
      · obtain ⟨found', hanchor'⟩ := hhere
        have hread := h.reads hanchor'
        have hsame : ∀ f, anchor passed (c :: rest) f → f = found' := by
          intro f hf
          exact Option.some.inj ((h.reads hf).symm.trans hread)
        have hmem := later (n := found'.width - 1) ?_ (Nat.zero_le _) ?_
        · rw [occurrencesFrom, hread, List.mem_cons, hmem, Prod.mk.injEq]
          refine or_congr_left (and_congr_right fun _ => ?_)
          exact ⟨fun heq => heq ▸ hanchor', hsame found⟩
        · intro f hf
          rw [hsame f hf]
          omega
        · intro next rest' f hrest hf
          have hend : found'.width ≤ (c :: next).length :=
            h.apart (by rwa [List.cons_append, ← hrest]) (by simp)
              (by rwa [List.append_assoc, List.singleton_append] at hf)
          rw [List.length_cons] at hend
          omega
      · have hnone : read passed.getLast? (c :: rest) = none := by
          -- a find that is no anchor would start inside an earlier one
          rw [Option.eq_none_iff_forall_ne_some]
          intro f hf
          obtain ⟨earlier, between, found', hsplit, hanchor, hlt⟩ := h.covers hf
          by_cases hnil : between = []
          · subst hnil
            rw [List.append_nil] at hsplit
            exact hhere ⟨found', hsplit ▸ hanchor⟩
          · have := hreach earlier between found' hsplit hnil hanchor
            omega
        rw [occurrencesFrom, hnone, later (fun f hf => absurd ⟨f, hf⟩ hhere) (Nat.zero_le _)
          (fun _ _ _ _ _ => Nat.zero_le _)]
        refine ⟨.inr, ?_⟩
        rintro (⟨-, hanchor⟩ | hlater)
        · exact absurd ⟨_, hanchor⟩ hhere
        · exact hlater

/-- **The finds of a line are those at its anchors.** -/
theorem mem_occurrences_iff (h : Anchors read anchor) {line : Text} {p : Nat} {found : Found α} :
    (p, found) ∈ occurrences read line ↔
      ∃ passed rest, line = passed ++ rest ∧ p = passed.length ∧ anchor passed rest found := by
  have hreach : ∀ earlier between found', ([] : Text) = earlier ++ between → between ≠ [] →
      anchor earlier (between ++ line) found' → found'.width ≤ between.length + 0 := by
    intro earlier between _ hsplit hne
    exact absurd (List.append_eq_nil_iff.mp hsplit.symm).2 hne
  have hmem : (p, found) ∈ occurrencesFrom read ([] : Text).length ([] : Text).getLast? 0 line ↔ _ :=
    h.mem_occurrencesFrom_iff hreach fun _ _ _ _ _ => Nat.zero_le _
  simpa only [occurrences, List.length_nil, List.getLast?_nil, List.nil_append, Nat.zero_add]
    using hmem

end Anchors

/-! ## The first find at a cursor -/

/-- The first find that the cursor touches, with its place. -/
def firstTouching (read : Reader α) (line : Text) (cursor : Int) : Option (Nat × Found α) :=
  (occurrences read line).find? fun e => (e.2.span e.1).touches cursor

theorem firstTouching_eq_none {line : Text} {cursor : Int}
    (h : ∀ p found, (p, found) ∈ occurrences read line → ¬ (found.span p).touches cursor = true) :
    firstTouching read line cursor = none := by
  rw [firstTouching, List.find?_eq_none]
  rintro ⟨p, found⟩ hmem
  exact h p found hmem

/-- What is read behind `p` is the first find at the cursor if everything that is read before it ends
within `p` and before the cursor. -/
theorem firstTouching_append {p y : Text} {found : Found α} {cursor : Int}
    (hearly : ∀ passed rest, p = passed ++ rest → rest ≠ [] → ∀ earlier,
      read passed.getLast? (rest ++ y) = some earlier →
        earlier.width ≤ rest.length ∧ (passed.length + earlier.width : Nat) < cursor)
    (hy : y ≠ []) (hread : read p.getLast? y = some found)
    (htouch : (found.span p.length).touches cursor = true) :
    firstTouching read (p ++ y) cursor = some (p.length, found) := by
  have hfits : ∀ passed rest, p = passed ++ rest → rest ≠ [] → ∀ earlier,
      read (lastOr none passed) (rest ++ y) = some earlier → earlier.width ≤ rest.length := by
    intro passed rest hp hne earlier h
    rw [lastOr, Option.or_none] at h
    exact (hearly passed rest hp hne earlier h).1
  have hbefore : (occurrencesFrom (fun b text => read b (text ++ y)) 0 none 0 p).find?
      (fun e => (e.2.span e.1).touches cursor) = none := by
    rw [List.find?_eq_none]
    rintro ⟨start, earlier⟩ hmem htouches
    obtain ⟨passed, rest, hp, hne, rfl, h⟩ := mem_occurrencesFrom hmem
    rw [lastOr, Option.or_none] at h
    have hend := (hearly passed rest hp hne earlier h).2
    have hstop := (Span.touches_iff.mp htouches).2
    simp only [Found.span] at hstop
    omega
  obtain ⟨c, rest, rfl⟩ := List.exists_cons_of_ne_nil hy
  have hhere : read (lastOr none p) (c :: rest) = some found := by
    rwa [lastOr, Option.or_none]
  rw [firstTouching, occurrences, occurrencesFrom_append (Nat.zero_le _) hfits, List.find?_append,
    hbefore, Option.none_or, Nat.zero_add, occurrencesFrom, hhere]
  simp only [List.find?_cons, htouch]

/-- A search that gives up at the first element behind the cursor loses nothing in an ascending
list. -/
theorem find?_takeWhile_of_pairwise {β : Type} {key : β → Int} {wanted : β → Bool} {cursor : Int}
    {l : List β} (hsorted : l.Pairwise fun x y => key x < key y)
    (hwanted : ∀ x, wanted x = true → key x ≤ cursor) :
    (l.takeWhile fun x => key x ≤ cursor).find? wanted = l.find? wanted := by
  induction l with
  | nil => rfl
  | cons x rest ih =>
    obtain ⟨hx, hrest⟩ := List.pairwise_cons.mp hsorted
    by_cases hle : key x ≤ cursor
    · rw [List.takeWhile_cons_of_pos (by simpa using hle), List.find?_cons, List.find?_cons,
        ih hrest]
    · rw [List.takeWhile_cons_of_neg (by simpa using hle), List.find?_nil, eq_comm,
        List.find?_eq_none]
      intro y hy hw
      have hkey := hwanted y hw
      rcases List.mem_cons.mp hy with rfl | hy
      · exact hle hkey
      · exact hle (by have := hx y hy; omega)

/-! ## Words -/

/-- The places of words ascend. -/
theorem pairwise_lineWords (line : Text) :
    (lineWords line).Pairwise fun x y => x.span.start < y.span.start := by
  rw [lineWords, List.pairwise_map]
  refine (pairwise_occurrencesFrom readWord 0 none 0 line).imp ?_
  intro x y hxy
  exact Int.ofNat_lt.mpr hxy

theorem touchingWord_eq_find? (line : Text) (cursor : Int) :
    touchingWord line cursor = (lineWords line).find? fun w => w.span.touches cursor :=
  find?_takeWhile_of_pairwise (pairwise_lineWords line) fun _ hw => (Span.touches_iff.mp hw).1

/-- The word at the cursor is the first find of words that the cursor touches. -/
theorem touchingWord_eq (line : Text) (cursor : Int) :
    touchingWord line cursor =
      (firstTouching readWord line cursor).map fun e => ⟨e.2.value, e.2.span e.1⟩ := by
  rw [touchingWord_eq_find?, lineWords, List.find?_map]
  rfl

end TypeLens
