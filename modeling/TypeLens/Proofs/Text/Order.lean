/-
# TypeLens.Proofs.Text.Order -- texts in the order of their code points

`textLE` compares two texts character by character. It is the reflexive form of the lexicographic
order of code points (`textLE_iff`), so that sorting by it and then leaving out what has been there
before gives the texts in strictly ascending order, and neither more nor fewer of them
(`pairwise_sortedUnique`, `mem_sortedUnique`).
-/
import TypeLens.Text.Basic

namespace TypeLens

/-- One text comes before another: it is a proper beginning of it, or has the smaller code point where
the two first differ. -/
def TextLT : Text → Text → Prop := List.Lex fun c d => c.toNat < d.toNat

theorem toNat_injective {c d : Char} (h : c.toNat = d.toNat) : c = d :=
  Char.ext (UInt32.toNat_inj.mp h)

theorem textLE_iff {a b : Text} : textLE a b = true ↔ TextLT a b ∨ a = b := by
  induction a generalizing b with
  | nil =>
    cases b with
    | nil => exact iff_of_true rfl (.inr rfl)
    | cons d b => exact iff_of_true rfl (.inl .nil)
  | cons c a ih =>
    cases b with
    | nil => exact iff_of_false Bool.false_ne_true (by rintro (h | h) <;> cases h)
    | cons d b =>
      rw [textLE]
      by_cases hcd : c = d
      · subst hcd
        rw [if_pos rfl, ih, List.cons_inj_right]
        refine or_congr_left ⟨.cons, ?_⟩
        intro h
        cases h with
        | cons h => exact h
        | rel h => exact absurd h (Nat.lt_irrefl _)
      · rw [if_neg hcd, decide_eq_true_iff]
        constructor
        · intro hle
          exact .inl (.rel (Nat.lt_of_le_of_ne hle fun h => hcd (toNat_injective h)))
        · rintro (h | h)
          · cases h with
            | cons => exact absurd rfl hcd
            | rel h => exact Nat.le_of_lt h
          · exact absurd (List.cons.inj h).1 hcd

theorem textLE_total (a b : Text) : (textLE a b || textLE b a) = true := by
  induction a generalizing b with
  | nil => rfl
  | cons c a ih =>
    cases b with
    | nil => rfl
    | cons d b =>
      by_cases hcd : c = d
      · subst hcd
        simpa [textLE] using ih b
      · have hdc : ¬ d = c := fun h => hcd h.symm
        simpa [textLE, hcd, hdc] using Nat.le_total c.toNat d.toNat

theorem textLE_trans (a b c : Text) (hab : textLE a b = true) (hbc : textLE b c = true) :
    textLE a c = true := by
  induction a generalizing b c with
  | nil => rfl
  | cons x a ih =>
    cases b with
    | nil => exact absurd hab Bool.false_ne_true
    | cons y b =>
      cases c with
      | nil => exact absurd hbc Bool.false_ne_true
      | cons z c =>
        by_cases hxy : x = y
        · subst hxy
          by_cases hxz : x = z
          · subst hxz
            simp only [textLE, if_true] at hab hbc ⊢
            exact ih b c hab hbc
          · simpa [textLE, hxz] using hbc
        · by_cases hyz : y = z
          · subst hyz
            simpa [textLE, hxy] using hab
          · simp only [textLE, hxy, hyz, if_false, decide_eq_true_iff] at hab hbc
            -- the code points rise twice, so the outer two texts differ here as well
            have hne : ¬ x = z := by
              rintro rfl
              exact hxy (toNat_injective (Nat.le_antisymm hab hbc))
            simp only [textLE, hne, if_false, decide_eq_true_iff]
            exact Nat.le_trans hab hbc

/-- Leaving out what has been there before makes an ordered list strictly ordered. -/
theorem pairwise_eraseDups {r : Text → Text → Prop} {texts : List Text} (h : texts.Pairwise r) :
    texts.eraseDups.Pairwise fun a b => r a b ∧ a ≠ b := by
  match texts with
  | [] => exact .nil
  | a :: rest =>
    obtain ⟨hfirst, hrest⟩ := List.pairwise_cons.mp h
    rw [List.eraseDups_cons, List.pairwise_cons]
    refine ⟨?_, pairwise_eraseDups (hrest.filter _)⟩
    intro b hb
    obtain ⟨hmem, hne⟩ := List.mem_filter.mp (List.mem_eraseDups.mp hb)
    exact ⟨hfirst b hmem, fun hab => by simp [hab] at hne⟩
termination_by texts.length
decreasing_by
  have := List.length_filter_le (fun b => !b == a) rest
  simp only [List.length_cons]
  omega

theorem mem_sortedUnique {text : Text} {texts : List Text} :
    text ∈ sortedUnique texts ↔ text ∈ texts := by
  rw [sortedUnique, List.mem_eraseDups, List.mem_mergeSort]

/-- The texts come out in strictly ascending order. -/
theorem pairwise_sortedUnique (texts : List Text) : (sortedUnique texts).Pairwise TextLT := by
  have hsorted := List.pairwise_mergeSort textLE_trans textLE_total texts
  exact (pairwise_eraseDups hsorted).imp fun h => (textLE_iff.mp h.1).resolve_right h.2

end TypeLens
