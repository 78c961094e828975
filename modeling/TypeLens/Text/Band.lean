/-
# TypeLens.Text.Band -- classes of characters as intervals of code points

A class is a list of closed intervals in ascending order. Look-up walks the list and stops at the
first interval that begins above the code point, so a class answers for the low code points after
a few steps however long its table is.
-/
namespace TypeLens

/-- The code points from `first` to `last`, both included. -/
structure Band where
  first : Nat
  last : Nat

namespace Band

/-- Whether a code point lies in one of the bands, which are listed in ascending order. -/
def covers : List Band → Nat → Bool
  | [], _ => false
  | b :: bands, n => if n < b.first then false else n ≤ b.last || covers bands n

/-- A covered code point lies in one of the bands. -/
theorem exists_of_covers {bands : List Band} {n : Nat} (h : covers bands n = true) :
    ∃ b ∈ bands, b.first ≤ n ∧ n ≤ b.last := by
  induction bands with
  | nil => simp [covers] at h
  | cons b bands ih =>
    by_cases hlt : n < b.first
    · simp [covers, hlt] at h
    · by_cases hle : n ≤ b.last
      · exact ⟨b, by simp, by omega, hle⟩
      · obtain ⟨x, hx, hin⟩ := ih (by simpa [covers, hlt, hle] using h)
        exact ⟨x, by simp [hx], hin⟩

/-- Whether two intervals have no code point in common. -/
def apart (b b' : Band) : Bool := b.last.blt b'.first || b'.last.blt b.first

theorem apart_iff {b b' : Band} : b.apart b' = true ↔ b.last < b'.first ∨ b'.last < b.first := by
  simp [apart, Nat.blt_eq]

/-- Lists whose bands are all apart cover no code point in common. -/
theorem covers_eq_false {bands bands' : List Band}
    (h : ∀ b ∈ bands, ∀ b' ∈ bands', b.apart b' = true) {n : Nat} (hn : covers bands n = true) :
    covers bands' n = false := by
  rw [Bool.eq_false_iff]
  intro hn'
  obtain ⟨b, hb, hlow, hhigh⟩ := exists_of_covers hn
  obtain ⟨b', hb', hlow', hhigh'⟩ := exists_of_covers hn'
  rcases apart_iff.mp (h b hb b' hb') with h | h <;> omega

end Band

end TypeLens
