import Mathlib.Algebra.Order.Field.Basic
import Mathlib.Algebra.Order.Field.Rat
import Mathlib.Algebra.Order.Field.Power
import Mathlib.Tactic.FieldSimp
import Mathlib.Tactic.Linarith
import Mathlib.Tactic.NormNum
import Mathlib.Tactic.Ring
import TypedPrefs.Number.Binary

/-!
# The binary exponent of a quotient

Rounding starts from the greatest power of two that a quotient reaches. The logarithms of the two
parts tell its exponent up to one, and one comparison decides.
-/

namespace TypedPrefs.Number

/-- A power with an integer exponent as a quotient of two with natural ones. -/
theorem zpow_mul_pow_toNat {a : ℚ} (ha : a ≠ 0) (q : ℤ) : a ^ q * a ^ (-q).toNat = a ^ q.toNat := by
  rcases Int.le_total 0 q with h | h
  · lift q to ℕ using h
    simp
  · obtain ⟨n, rfl⟩ := Int.exists_eq_neg_ofNat h
    simp [ha]

theorem reachesPower_iff (num : ℕ) {den : ℕ} (hden : 0 < den) (e : ℤ) :
    reachesPower num den e = true ↔ (2 : ℚ) ^ e ≤ num / den := by
  have hden' : (0 : ℚ) < den := by exact_mod_cast hden
  have hpow : (0 : ℚ) < 2 ^ (-e).toNat := by positivity
  rw [le_div_iff₀ hden', ← mul_le_mul_iff_left₀ hpow, mul_right_comm,
    zpow_mul_pow_toNat two_ne_zero, reachesPower, decide_eq_true_eq, mul_comm]
  exact_mod_cast Iff.rfl

/-- The logarithms of the parts of a quotient enclose it. -/
theorem quotient_between {num den : ℕ} (hnum : num ≠ 0) (hden : den ≠ 0) :
    (2 : ℚ) ^ ((num.log2 : ℤ) - den.log2 - 1) ≤ num / den ∧
      (num / den : ℚ) < 2 ^ ((num.log2 : ℤ) - den.log2 + 1) := by
  have hden' : (0 : ℚ) < den := by exact_mod_cast Nat.pos_of_ne_zero hden
  have htwo : (2 : ℚ) ≠ 0 := two_ne_zero
  have hnumLow : (2 : ℚ) ^ num.log2 ≤ num := by exact_mod_cast Nat.log2_self_le hnum
  have hnumHigh : (num : ℚ) < 2 ^ (num.log2 + 1) := by exact_mod_cast Nat.lt_log2_self
  have hdenLow : (2 : ℚ) ^ den.log2 ≤ den := by exact_mod_cast Nat.log2_self_le hden
  have hdenHigh : (den : ℚ) < 2 ^ (den.log2 + 1) := by exact_mod_cast Nat.lt_log2_self
  constructor
  · rw [le_div_iff₀ hden']
    calc (2 : ℚ) ^ ((num.log2 : ℤ) - den.log2 - 1) * den
        ≤ 2 ^ ((num.log2 : ℤ) - den.log2 - 1) * 2 ^ (den.log2 + 1) := by gcongr
      _ = 2 ^ num.log2 := by
        rw [← zpow_natCast, ← zpow_add₀ htwo, ← zpow_natCast]
        congr 1
        push_cast
        ring
      _ ≤ num := hnumLow
  · rw [div_lt_iff₀ hden']
    calc (num : ℚ) < 2 ^ (num.log2 + 1) := hnumHigh
      _ = 2 ^ ((num.log2 : ℤ) - den.log2 + 1) * 2 ^ den.log2 := by
        rw [← zpow_natCast, ← zpow_natCast, ← zpow_add₀ htwo]
        congr 1
        push_cast
        ring
      _ ≤ 2 ^ ((num.log2 : ℤ) - den.log2 + 1) * den := by gcongr

/-- `binaryExponent` is the exponent of the greatest power of two that the quotient reaches. -/
theorem binaryExponent_spec {num den : ℕ} (hnum : num ≠ 0) (hden : den ≠ 0) :
    (2 : ℚ) ^ binaryExponent num den ≤ num / den ∧
      (num / den : ℚ) < 2 ^ (binaryExponent num den + 1) := by
  obtain ⟨hlow, hhigh⟩ := quotient_between hnum hden
  have hreach := reachesPower_iff num (Nat.pos_of_ne_zero hden) ((num.log2 : ℤ) - den.log2)
  rw [binaryExponent]
  split
  · next h => exact ⟨hreach.mp h, hhigh⟩
  · next h =>
    rw [sub_add_cancel]
    exact ⟨hlow, lt_of_not_ge (mt hreach.mpr h)⟩

end TypedPrefs.Number
