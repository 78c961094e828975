/-
# TypeLens.Proofs.Text.Printing -- which integers can be printed

Reading and printing stop at the same number of digits. So an integer can be printed if and only if it
is below the power of ten with that many zeros (`isSome_integerText?_iff`), and every integer that was
read from a text can be (`integerText?_of_integer?`). In particular the capacity that settings take
from the environment can be printed whatever the environment says, which is why the effective settings
are printed without a check.
-/
import Mathlib.Algebra.Group.Nat.Defs
import TypeLens.Settings

namespace TypeLens

/-! ## Printing -/

theorem isSome_integerText?_iff {n : Int} :
    (integerText? n).isSome = true ↔ n.natAbs < 10 ^ maxDigits := by
  rw [integerText?, Option.isSome_ite, Nat.length_toDigits_le_iff (by decide) (by decide)]

theorem integerText?_eq_none_iff {n : Int} :
    integerText? n = none ↔ 10 ^ maxDigits ≤ n.natAbs := by
  rw [← Nat.not_lt, ← isSome_integerText?_iff, Option.not_isSome_iff_eq_none]

/-- Numbers of four thousand digits apart, every number can be printed. -/
theorem isSome_integerText?_of_lt {n : Int} (h : n.natAbs < maxDigits) :
    (integerText? n).isSome = true :=
  isSome_integerText?_iff.mpr (Nat.lt_trans h (Nat.lt_pow_self (by decide)))

/-! ## Reading -/

theorem digitValue?_lt {c : Char} {v : Nat} (h : digitValue? c = some v) : v < 10 := by
  obtain ⟨first, hfirst, rfl⟩ := Option.map_eq_some_iff.mp h
  have hrange := List.find?_some hfirst
  simp only [Bool.and_eq_true, decide_eq_true_eq] at hrange
  omega

theorem digits?_lt {text : Text} {ds : List Nat} (h : digits? text = some ds) :
    ∀ d ∈ ds, d < 10 := by
  fun_induction digits? text generalizing ds with
  | case1 => cases h
  | case2 c =>
    obtain ⟨v, hv, rfl⟩ := Option.map_eq_some_iff.mp h
    exact List.forall_mem_singleton.mpr (digitValue?_lt hv)
  | case3 c d rest ih =>
    simp only [Option.bind_eq_bind, Option.bind_eq_some_iff] at h
    obtain ⟨v, hv, vs, hvs, ⟨⟩⟩ := h
    exact List.forall_mem_cons.mpr ⟨digitValue?_lt hv, ih hvs⟩
  | case4 c d rest _ ih =>
    simp only [Option.bind_eq_bind, Option.bind_eq_some_iff] at h
    obtain ⟨v, hv, vs, hvs, ⟨⟩⟩ := h
    exact List.forall_mem_cons.mpr ⟨digitValue?_lt hv, ih hvs⟩

/-- Digits behind a number make it as many powers of ten larger, and not one more. -/
theorem foldl_digits_lt {ds : List Nat} (h : ∀ d ∈ ds, d < 10) (n : Nat) :
    ds.foldl (fun n d => 10 * n + d) n < (n + 1) * 10 ^ ds.length := by
  induction ds generalizing n with
  | nil => simp
  | cons d rest ih =>
    obtain ⟨hd, hrest⟩ := List.forall_mem_cons.mp h
    calc rest.foldl (fun n d => 10 * n + d) (10 * n + d)
      _ < (10 * n + d + 1) * 10 ^ rest.length := ih hrest _
      _ ≤ (n + 1) * 10 * 10 ^ rest.length := Nat.mul_le_mul_right _ (by omega)
      _ = (n + 1) * 10 ^ (d :: rest).length := by
        rw [List.length_cons, Nat.pow_succ, Nat.mul_assoc, Nat.mul_comm 10]

theorem natural?_lt {text : Text} {n : Nat} (h : natural? text = some n) : n < 10 ^ maxDigits := by
  simp only [natural?, Option.bind_eq_bind, Option.bind_eq_some_iff,
    Option.ite_none_right_eq_some, Option.some.injEq] at h
  obtain ⟨ds, hds, hlength, rfl⟩ := h
  calc ofDigits ds
    _ < (0 + 1) * 10 ^ ds.length := foldl_digits_lt (digits?_lt hds) 0
    _ = 10 ^ ds.length := by rw [Nat.zero_add, Nat.one_mul]
    _ ≤ 10 ^ maxDigits := Nat.pow_le_pow_right (by decide) hlength

/-- **What was read can be printed.** -/
theorem integerText?_of_integer? {text : Text} {n : Int} (h : integer? text = some n) :
    integerText? n = some (integerText n) := by
  have hlt : n.natAbs < 10 ^ maxDigits := by
    unfold integer? at h
    dsimp only at h
    split at h
    · obtain ⟨m, hm, rfl⟩ := Option.map_eq_some_iff.mp h
      exact natural?_lt hm
    · obtain ⟨m, hm, rfl⟩ := Option.map_eq_some_iff.mp h
      rw [Int.natAbs_neg]
      exact natural?_lt hm
    · obtain ⟨m, hm, rfl⟩ := Option.map_eq_some_iff.mp h
      exact natural?_lt hm
  exact if_pos ((Nat.length_toDigits_le_iff (by decide) (by decide)).mpr hlt)

/-- The capacity of settings from the environment can be printed. -/
theorem Settings.integerText?_cacheCapacity (env : Environment) :
    integerText? (ofEnvironment env).cacheCapacity =
      some (integerText (ofEnvironment env).cacheCapacity) := by
  show integerText? (readCapacity env.cacheMaxSize) = some (integerText (readCapacity _))
  cases env.cacheMaxSize with
  | none => rfl
  | some text =>
    rw [readCapacity]
    cases h : integer? text with
    | none => rfl
    | some n => exact integerText?_of_integer? h

end TypeLens
