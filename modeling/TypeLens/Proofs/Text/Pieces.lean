/-
# TypeLens.Proofs.Text.Pieces -- pieces of a text under trimming and lower-casing

Whether a piece occurs in a text (`occursIn_iff`) is not changed by taking away what shares no
character with the piece, before or behind the text. So a piece without blanks occurs in a text
exactly where it occurs in the trimmed text.

Lower-casing a text is not the same as lower-casing its characters, since a capital sigma has two
small forms. But the forms are the only difference (`map_middleSigma_lowerFrom`), so a piece without
sigmas does not notice it: it occurs in the text in lower case if and only if it occurs where each
character is lowered on its own (`infix_lower_iff`). The second way of lowering goes through pieces,
which is what makes it the one to reason with.
-/
import Mathlib.Data.List.Infix
import TypeLens.Proofs.Text.Lowering

namespace TypeLens

/-! ## Occurrence -/

section Occurrence

variable {piece text gap : Text}

theorem occursIn_iff : occursIn piece text = true ↔ piece <:+: text := by
  induction text with
  | nil => rw [occursIn, List.isEmpty_iff, List.infix_nil]
  | cons c rest ih =>
    rw [occursIn, Bool.or_eq_true, List.isPrefixOf_iff_prefix, ih, List.infix_cons_iff]

/-- A piece does not begin before the text in characters that it does not have. -/
theorem infix_append_left_iff (hgap : ∀ c ∈ gap, c ∉ piece) :
    piece <:+: gap ++ text ↔ piece <:+: text := by
  refine ⟨fun h => ?_, fun h => h.trans (List.suffix_append gap text).isInfix⟩
  induction gap with
  | nil => exact h
  | cons g gap ih =>
    rw [List.cons_append, List.infix_cons_iff] at h
    rcases h with hfront | hlater
    · -- the piece would start with the first character of the gap
      cases piece with
      | nil => exact List.nil_infix
      | cons p piece =>
        obtain ⟨rfl, -⟩ := List.cons_prefix_cons.mp hfront
        exact absurd List.mem_cons_self (hgap p List.mem_cons_self)
    · exact ih (fun c hc => hgap c (List.mem_cons_of_mem g hc)) hlater

/-- Nor does it end behind the text in such characters. -/
theorem infix_append_right_iff (hgap : ∀ c ∈ gap, c ∉ piece) :
    piece <:+: text ++ gap ↔ piece <:+: text := by
  rw [← List.reverse_infix, List.reverse_append, infix_append_left_iff, List.reverse_infix]
  intro c hc
  rw [List.mem_reverse]
  exact hgap c (List.mem_reverse.mp hc)

/-- Where a map gives the characters of a piece only for themselves, the piece occurs in the image
of a text exactly if it occurs in the text. -/
theorem infix_map_iff {f : Char → Char} (hf : ∀ c ∈ piece, ∀ d, f d = c ↔ d = c) :
    piece <:+: text.map f ↔ piece <:+: text := by
  constructor
  · rintro ⟨front, back, hsplit⟩
    obtain ⟨frontAndMid, back', rfl, hleft, -⟩ := List.map_eq_append_iff.mp hsplit.symm
    obtain ⟨front', mid, rfl, -, hmid⟩ := List.map_eq_append_iff.mp hleft
    rw [(map_eq_iff_eq hf mid).mp hmid]
    exact ⟨front', back', rfl⟩
  · intro h
    have hpiece : piece.map f = piece := (map_eq_iff_eq hf piece).mpr rfl
    rw [← hpiece]
    exact h.map f

end Occurrence

/-! ## Blanks around a text -/

/-- Blanks are in lower case. -/
theorem flatMap_lowerChar_blanks {gap : Text} (hgap : ∀ c ∈ gap, isBlank c = true) :
    gap.flatMap lowerChar = gap := by
  rw [List.flatMap_congr fun c hc => lowerChar_of_isBlank (hgap c hc)]
  exact List.flatMap_singleton' gap

section Blanks

variable {piece : Text} (hpiece : ∀ c ∈ piece, isBlank c = false)

include hpiece

/-- Blanks around a text hold no part of a piece without blanks, also where the text is read in lower
case. -/
theorem infix_lowered_blanks_iff {lead trail : Text} (hlead : ∀ c ∈ lead, isBlank c = true)
    (htrail : ∀ c ∈ trail, isBlank c = true) (text : Text) :
    piece <:+: (lead ++ text ++ trail).flatMap lowerChar ↔ piece <:+: text.flatMap lowerChar := by
  have hnot : ∀ {gap : Text}, (∀ c ∈ gap, isBlank c = true) → ∀ c ∈ gap, c ∉ piece := by
    intro gap hgap c hc hmem
    exact Bool.false_ne_true ((hpiece c hmem).symm.trans (hgap c hc))
  rw [List.flatMap_append, List.flatMap_append, flatMap_lowerChar_blanks hlead,
    flatMap_lowerChar_blanks htrail, infix_append_right_iff (hnot htrail),
    infix_append_left_iff (hnot hlead)]

theorem infix_lowered_trim_iff (text : Text) :
    piece <:+: (trim text).flatMap lowerChar ↔ piece <:+: text.flatMap lowerChar := by
  obtain ⟨lead, trail, hlead, htrail, hsplit⟩ := exists_blanks_trim text
  conv_rhs => rw [hsplit]
  exact (infix_lowered_blanks_iff hpiece hlead htrail (trim text)).symm

end Blanks

/-! ## Texts in lower case -/

/-- A piece without sigmas occurs in a text in lower case if and only if it occurs where each
character of the text is lowered on its own. -/
theorem infix_lower_iff {piece : Text} (hpiece : ∀ c ∈ piece, c ≠ 'σ' ∧ c ≠ 'ς') (text : Text) :
    piece <:+: lower text ↔ piece <:+: text.flatMap lowerChar := by
  have hforms : ∀ c ∈ piece, ∀ d, middleSigma d = c ↔ d = c := fun c hc =>
    middleSigma_eq_iff (hpiece c hc).1 (hpiece c hc).2
  rw [← infix_map_iff hforms, lower, map_middleSigma_lowerFrom, infix_map_iff hforms]

/-- A text in lower case is left alone, character by character. -/
theorem flatMap_lowerChar_lower (text : Text) : (lower text).flatMap lowerChar = lower text := by
  rw [List.flatMap_congr fun _ hc => lowerChar_of_mem_lower hc]
  exact List.flatMap_singleton' (lower text)

end TypeLens
