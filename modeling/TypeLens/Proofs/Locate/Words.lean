/-
# TypeLens.Proofs.Locate.Words -- which words the scan of a line finds

A word can be read at any of its characters, but the scan reads it at the first one only: that is
where a word character follows something else (`WordAt`). Every place inside a word belongs to the
one that starts there, and a word reaches up to the next place that is in no word, so these starts
are the anchors of the scan (`word_anchors`).
-/
import Mathlib.Data.List.TakeWhile
import TypeLens.Proofs.Locate.Composite
import TypeLens.Proofs.Locate.Occurrences

namespace TypeLens

/-- A text taken apart into the word that it ends with, if any, and what is before that word. -/
theorem exists_endWord (text : Text) :
    ∃ a w, text = a ++ w ∧ inWord a.getLast? = false ∧ ∀ c ∈ w, isWordChar c = true := by
  refine ⟨(text.reverse.dropWhile isWordChar).reverse, (text.reverse.takeWhile isWordChar).reverse,
    ?_, ?_, ?_⟩
  · rw [← List.reverse_append, List.takeWhile_append_dropWhile, List.reverse_reverse]
  · rw [List.getLast?_reverse]
    exact inWord_head_dropWhile _
  · intro c hc
    exact List.mem_takeWhile_imp (List.mem_reverse.mp hc)

/-- A word starts between the texts, and is found. -/
def WordAt (passed rest : Text) (found : Found Text) : Prop :=
  inWord passed.getLast? = false ∧ rest.takeWhile isWordChar ≠ [] ∧
    found = ⟨rest.takeWhile isWordChar, (rest.takeWhile isWordChar).length⟩

theorem readWord_eq_some_iff {before : Option Char} {text : Text} {found : Found Text} :
    readWord before text = some found ↔ text.takeWhile isWordChar ≠ [] ∧
      found = ⟨text.takeWhile isWordChar, (text.takeWhile isWordChar).length⟩ := by
  rw [readWord]
  split
  · rename_i hnil
    simp [hnil]
  · rename_i hne
    rw [Option.some.injEq, eq_comm (a := found)]
    exact (and_iff_right hne).symm

theorem word_anchors : Anchors readWord WordAt where
  ne_nil := by
    rintro _ rest _ ⟨-, hne, -⟩ rfl
    exact hne rfl
  reads := fun h => readWord_eq_some_iff.mpr h.2
  covers := by
    intro passed rest found hread
    obtain ⟨hne, -⟩ := readWord_eq_some_iff.mp hread
    obtain ⟨a, w, rfl, ha, hw⟩ := exists_endWord passed
    have htake : (w ++ rest).takeWhile isWordChar = w ++ rest.takeWhile isWordChar :=
      List.takeWhile_append_of_pos hw
    refine ⟨a, w, _, rfl, ⟨ha, ?_, rfl⟩, ?_⟩
    · rw [htake]
      exact List.append_ne_nil_of_right_ne_nil w hne
    · have hpos := List.length_pos_of_ne_nil hne
      show w.length < ((w ++ rest).takeWhile isWordChar).length
      rw [htake, List.length_append]
      omega
  apart := by
    rintro earlier between rest _ _ ⟨-, -, rfl⟩ hne ⟨hlast, -⟩
    rw [List.getLast?_append_of_ne_nil _ hne, List.getLast?_eq_some_getLast hne] at hlast
    -- the last character before the second word is in no word
    have hstop : ¬ ∀ c ∈ between, isWordChar c = true := fun hall =>
      Bool.false_ne_true (hlast.symm.trans (hall _ (List.getLast_mem hne)))
    show ((between ++ rest).takeWhile isWordChar).length ≤ between.length
    rw [List.takeWhile_append]
    split
    · rename_i hlength
      exact absurd (List.takeWhile_eq_self_iff.mp
        ((List.takeWhile_prefix isWordChar).eq_of_length hlength)) hstop
    · exact (List.takeWhile_prefix isWordChar).length_le

theorem mem_occurrences_readWord {p : Nat} {line : Text} {found : Found Text} :
    (p, found) ∈ occurrences readWord line ↔
      ∃ passed rest, line = passed ++ rest ∧ p = passed.length ∧ WordAt passed rest found :=
  word_anchors.mem_occurrences_iff

end TypeLens
