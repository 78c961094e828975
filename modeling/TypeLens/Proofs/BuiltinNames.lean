/-
# TypeLens.Proofs.BuiltinNames -- which texts name a built-in type

The table of built-in types is searched for a text that is trimmed, single-spaced and in lower case.
What that comes to is that the words of the text, in lower case, are those of a name in the table
(`found_by_lowerWords`): neither letter case nor spacing matters, but the division into words does.

Lower-casing looks at the neighbours of a character in one place, the capital sigma, and no name of
the table has a sigma. So the words can be lowered as texts or character by character: for those of
a name the two come to the same (`normalName_eq_iff`). The names differ even in their letters alone
(`eq_of_letters_eq`), so a name whose words are merged or divided otherwise is no name at all.
-/
import Mathlib.Data.List.Nodup
import TypeLens.Builtin
import TypeLens.Proofs.Text.Lowering

namespace TypeLens

/-- The words of a text, each character of them in lower case. -/
def lowerWords (text : Text) : List Text := (words text).map fun w => w.flatMap lowerChar

namespace Builtin

variable {b b' : Builtin} {text text' : Text}

/-! ## The names of the table -/

theorem noSigma_name (hb : b ∈ table) : 'σ' ∉ (collapse b.name).flatMap lowerChar ∧
    'ς' ∉ (collapse b.name).flatMap lowerChar := by
  have hall : ∀ b ∈ table, 'σ' ∉ (collapse b.name).flatMap lowerChar ∧
      'ς' ∉ (collapse b.name).flatMap lowerChar := by
    decide +kernel
  exact hall b hb

/-- No two names have the same letters, however these are divided into words. -/
theorem nodup_letters : (table.map fun b => (lowerWords b.name).flatten).Nodup := by
  decide +kernel

theorem eq_of_letters_eq (hb : b ∈ table) (hb' : b' ∈ table)
    (h : (lowerWords b.name).flatten = (lowerWords b'.name).flatten) : b = b' :=
  List.inj_on_of_nodup_map nodup_letters hb hb' h

/-! ## Normal forms -/

theorem normalName_eq_iff_words :
    normalName text = normalName text' ↔ (words text).map lower = (words text').map lower :=
  wordWise_lower.collapse_eq_iff

/-- A text has the normal form of a name if it has its words, whatever the case of the letters. -/
theorem normalName_eq_iff (hb : b ∈ table) :
    normalName b.name = normalName text ↔ lowerWords b.name = lowerWords text := by
  obtain ⟨hmid, hfinal⟩ := noSigma_name hb
  rw [normalName, normalName, lower_eq_iff_of_noSigma hmid hfinal]
  exact wordWise_lowerChar.collapse_eq_iff

theorem normalName_eq_joinWords (text : Text) :
    normalName text = joinWords ((words text).map lower) := by
  rw [normalName, collapse_eq_joinWords, wordWise_lower.joinWords_eq]

theorem words_normalName (text : Text) : words (normalName text) = (words text).map lower := by
  rw [normalName, wordWise_lower.words_eq, words_collapse]

theorem normalName_normalName (text : Text) :
    normalName (normalName text) = normalName text := by
  have hlow : ∀ w ∈ (words text).map lower, lower w = w := by
    intro w hw
    obtain ⟨v, -, rfl⟩ := List.mem_map.mp hw
    exact lower_lower v
  rw [normalName_eq_joinWords (normalName text), words_normalName, List.map_congr_left hlow,
    List.map_id', normalName_eq_joinWords]

/-! ## Look-up -/

theorem find?_eq_none_iff :
    find? text = none ↔ ∀ b ∈ table, normalName b.name ≠ normalName text := by
  rw [find?, List.find?_eq_none]
  simp

theorem find?_eq_some_iff :
    find? text = some b ↔ b ∈ table ∧ normalName b.name = normalName text := by
  constructor
  · intro hfind
    exact ⟨List.mem_of_find?_eq_some hfind, by simpa using List.find?_some hfind⟩
  · rintro ⟨hb, heq⟩
    cases hfind : find? text with
    | none => exact absurd heq (find?_eq_none_iff.mp hfind b hb)
    | some b' =>
      -- both rows have the words of the text
      have hb' : b' ∈ table := List.mem_of_find?_eq_some hfind
      have heq' : normalName b'.name = normalName text := by simpa using List.find?_some hfind
      have hwords := (normalName_eq_iff hb').mp (heq'.trans heq.symm)
      rw [eq_of_letters_eq hb' hb (congrArg List.flatten hwords)]

theorem find?_name (hb : b ∈ table) : find? b.name = some b :=
  find?_eq_some_iff.mpr ⟨hb, rfl⟩

theorem find?_eq_some_iff_lowerWords :
    find? text = some b ↔ b ∈ table ∧ lowerWords b.name = lowerWords text := by
  rw [find?_eq_some_iff]
  exact and_congr_right normalName_eq_iff

/-- Only the words count, whatever the case of their letters. -/
theorem find?_congr (h : lowerWords text = lowerWords text') : find? text = find? text' := by
  ext b
  rw [find?_eq_some_iff_lowerWords, find?_eq_some_iff_lowerWords, h]

/-- The letters of a name count only with its division into words. -/
theorem find?_of_letters (hletters : (lowerWords text).flatten = (lowerWords text').flatten)
    (hne : lowerWords text ≠ lowerWords text') : find? text = none ∨ find? text' = none := by
  by_contra hfound
  rw [not_or, ← ne_eq, ← ne_eq, Option.ne_none_iff_exists', Option.ne_none_iff_exists'] at hfound
  obtain ⟨⟨b, hfind⟩, ⟨b', hfind'⟩⟩ := hfound
  obtain ⟨hb, hwords⟩ := find?_eq_some_iff_lowerWords.mp hfind
  obtain ⟨hb', hwords'⟩ := find?_eq_some_iff_lowerWords.mp hfind'
  rw [← hwords, ← hwords'] at hletters hne
  rw [eq_of_letters_eq hb hb' hletters] at hne
  exact hne rfl

/-- Two spellings of the same words, with blanks around one of them, have the same words. -/
theorem lowerWords_spelled {ws : List Text} {lead trail : Text} (h : Spelled ws text)
    (h' : Spelled ws text') (hlead : ∀ c ∈ lead, isBlank c = true)
    (htrail : ∀ c ∈ trail, isBlank c = true) :
    lowerWords (lead ++ text ++ trail) = lowerWords text' := by
  have hwords := h.words_map (f := id) fun _ hc => hc
  have hwords' := h'.words_map (f := id) fun _ hc => hc
  rw [List.map_id] at hwords hwords'
  rw [lowerWords, words_append_blanks _ htrail, words_blanks_append hlead, hwords, ← hwords',
    lowerWords]

/-- **The built-in type of a text is settled by its words in lower case.** A text is the name of a
built-in type if its words in lower case are those of that name, and no two names agree in them; it
comes to the same whether the words are lowered as texts or character by character. The form that
texts are compared in is its own normal form. So neither letter case nor blanks around the text nor
the blanks between its words change what is found, and of two texts with the same letters but other
words at most one names a built-in type. -/
theorem found_by_lowerWords :
    (∀ text b, find? text = some b ↔ b ∈ table ∧ lowerWords b.name = lowerWords text) ∧
    (∀ text b, find? text = some b ↔
      b ∈ table ∧ (words b.name).map lower = (words text).map lower) ∧
    (∀ b ∈ table, ∀ b' ∈ table, lowerWords b.name = lowerWords b'.name → b = b') ∧
    (∀ text, normalName (normalName text) = normalName text) ∧
    (∀ text text', text.flatMap lowerChar = text'.flatMap lowerChar ∨ lower text = lower text' →
      find? text = find? text') ∧
    (∀ ws text text' lead trail, Spelled ws text → Spelled ws text' →
      (∀ c ∈ lead, isBlank c = true) → (∀ c ∈ trail, isBlank c = true) →
        find? (lead ++ text ++ trail) = find? text') ∧
    (∀ text text', (lowerWords text).flatten = (lowerWords text').flatten →
      lowerWords text ≠ lowerWords text' → find? text = none ∨ find? text' = none) := by
  have hwords : ∀ text b, find? text = some b ↔
      b ∈ table ∧ (words b.name).map lower = (words text).map lower := by
    intro text b
    rw [find?_eq_some_iff, normalName_eq_iff_words]
  refine ⟨fun _ _ => find?_eq_some_iff_lowerWords, hwords, ?_, normalName_normalName, ?_, ?_,
    fun _ _ => find?_of_letters⟩
  · intro b hb b' hb' heq
    exact eq_of_letters_eq hb hb' (congrArg List.flatten heq)
  · rintro text text' (hcase | hcase)
    · apply find?_congr
      rw [lowerWords, lowerWords, ← wordWise_lowerChar.words_eq, ← wordWise_lowerChar.words_eq]
      exact congrArg words hcase
    · ext b
      rw [hwords, hwords, ← wordWise_lower.words_eq text, ← wordWise_lower.words_eq text', hcase]
  · intro ws text text' lead trail h h' hlead htrail
    exact find?_congr (lowerWords_spelled h h' hlead htrail)

/-- Capitals and blanks of any kind are let pass, merged words are not. -/
example :
    find? " unsigned\t LONG ".toList = some (row "unsigned long" 4 4 8 8 "Unsigned long integer") ∧
      find? "unsignedlong".toList = none := by
  decide +kernel

end Builtin

end TypeLens
