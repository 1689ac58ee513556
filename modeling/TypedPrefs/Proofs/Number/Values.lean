import Mathlib.Algebra.Order.Field.Power
import Mathlib.Algebra.Order.Field.Rat
import Mathlib.Data.Rat.Cast.Order
import Mathlib.Order.Monotone.Basic
import Mathlib.Tactic.Linarith
import Mathlib.Tactic.NormNum
import Mathlib.Tactic.Positivity
import Mathlib.Tactic.Ring
import TypedPrefs.Number.Binary

/-!
# The values of patterns

Every pattern of a format stands for a rational number. The steps between neighbours are powers of
two that never get smaller, so greater patterns have greater values. The value of infinity is the
one that would follow the greatest number.
-/

namespace TypedPrefs.Number

namespace Format

variable {f : Format} {m n : ℕ}

/-- The number that a pattern stands for. -/
def value (f : Format) (n : ℕ) : ℚ := f.significand n * 2 ^ f.exponent n

theorem leadingOne_pos (f : Format) : 0 < f.leadingOne := Nat.pow_pos Nat.two_pos

theorem even_leadingOne (hf : 2 ≤ f.precision) : Even f.leadingOne :=
  (Nat.even_pow' (by omega)).mpr even_two

theorem even_infinity (hf : 2 ≤ f.precision) : Even f.infinity := (even_leadingOne hf).mul_left _

/-! ## Significands and exponents -/

theorem significand_of_lt (h : n < f.leadingOne) : f.significand n = n := if_pos h

theorem exponent_of_lt (h : n < f.leadingOne) : f.exponent n = f.leastExponent := if_pos h

theorem significand_normal (k : ℕ) {r : ℕ} (hr : r < f.leadingOne) :
    f.significand (k * f.leadingOne + (f.leadingOne + r)) = f.leadingOne + r := by
  have hsum : k * f.leadingOne + (f.leadingOne + r) = r + (k + 1) * f.leadingOne := by ring
  rw [significand, if_neg (by omega), hsum, Nat.add_mul_mod_self_right, Nat.mod_eq_of_lt hr]

theorem exponent_normal (k : ℕ) {r : ℕ} (hr : r < f.leadingOne) :
    f.exponent (k * f.leadingOne + (f.leadingOne + r)) = f.leastExponent + k := by
  have hsum : k * f.leadingOne + (f.leadingOne + r) = r + (k + 1) * f.leadingOne := by ring
  rw [exponent, if_neg (by omega), hsum, Nat.add_mul_div_right _ _ f.leadingOne_pos,
    Nat.div_eq_of_lt hr]
  push_cast
  ring

/-- A pattern is a significand that stands so many steps above the least exponent; above the least
one it has a leading one. -/
structure HasParts (f : Format) (n k m : ℕ) : Prop where
  pattern : n = k * f.leadingOne + m
  lt : m < 2 * f.leadingOne
  leading : k = 0 ∨ f.leadingOne ≤ m
  significand : f.significand n = m
  exponent : f.exponent n = f.leastExponent + k

theorem hasParts_of_lt (h : n < f.leadingOne) : f.HasParts n 0 n where
  pattern := by rw [Nat.zero_mul, Nat.zero_add]
  lt := by omega
  leading := .inl rfl
  significand := significand_of_lt h
  exponent := by rw [exponent_of_lt h, Nat.cast_zero, add_zero]

theorem hasParts_normal (k : ℕ) {r : ℕ} (hr : r < f.leadingOne) :
    f.HasParts (k * f.leadingOne + (f.leadingOne + r)) k (f.leadingOne + r) where
  pattern := rfl
  lt := by omega
  leading := .inr (Nat.le_add_right _ _)
  significand := significand_normal k hr
  exponent := exponent_normal k hr

/-- A significand in its range makes a pattern of which it is the significand. -/
theorem hasParts_of_leading {k : ℕ} (hm : m < 2 * f.leadingOne)
    (hleading : k = 0 ∨ f.leadingOne ≤ m) : f.HasParts (k * f.leadingOne + m) k m := by
  by_cases hlow : m < f.leadingOne
  · obtain rfl : k = 0 := hleading.resolve_right (by omega)
    rw [Nat.zero_mul, Nat.zero_add]
    exact hasParts_of_lt hlow
  · obtain ⟨r, rfl⟩ := Nat.exists_eq_add_of_le (not_lt.mp hlow)
    exact hasParts_normal k (by omega)

theorem exists_hasParts (f : Format) (n : ℕ) : ∃ k m, f.HasParts n k m := by
  by_cases h : n < f.leadingOne
  · exact ⟨0, n, hasParts_of_lt h⟩
  · have hsplit : n = (n / f.leadingOne - 1) * f.leadingOne +
        (f.leadingOne + n % f.leadingOne) := by
      have hpos : 1 ≤ n / f.leadingOne := Nat.div_pos (not_lt.mp h) f.leadingOne_pos
      have hdiv := Nat.div_add_mod n f.leadingOne
      obtain ⟨q, hq⟩ := Nat.exists_eq_add_of_le hpos
      rw [hq] at hdiv ⊢
      rw [Nat.add_sub_cancel_left, ← Nat.add_assoc, ← Nat.succ_mul, Nat.succ_eq_add_one,
        Nat.add_comm q 1, Nat.mul_comm]
      exact hdiv.symm
    have hr := Nat.mod_lt n f.leadingOne_pos
    rw [hsplit]
    exact ⟨_, _, hasParts_normal _ hr⟩

theorem HasParts.even_iff {k : ℕ} (h : f.HasParts n k m) (hf : 2 ≤ f.precision) :
    Even n ↔ Even m := by
  rw [h.pattern, Nat.even_add]
  exact iff_of_eq (by simp [(even_leadingOne hf).mul_left k])

/-! ## Values -/

theorem HasParts.value {k : ℕ} (h : f.HasParts n k m) :
    f.value n = m * 2 ^ (f.leastExponent + k) := by
  rw [Format.value, h.significand, h.exponent]

/-- A significand with one bit too many has the value that it should have: the pattern carries into
the next exponent. -/
theorem value_scaled {k : ℕ} (hm : m ≤ 2 * f.leadingOne) (hleading : k = 0 ∨ f.leadingOne ≤ m) :
    f.value (k * f.leadingOne + m) = m * 2 ^ (f.leastExponent + k) := by
  rcases Nat.lt_or_eq_of_le hm with hlt | rfl
  · exact (hasParts_of_leading hlt hleading).value
  · have hcarry : k * f.leadingOne + 2 * f.leadingOne =
        (k + 1) * f.leadingOne + f.leadingOne := by ring
    have hnext : f.HasParts ((k + 1) * f.leadingOne + f.leadingOne) (k + 1) f.leadingOne :=
      hasParts_of_leading (by have := f.leadingOne_pos; omega) (.inr le_rfl)
    rw [hcarry, hnext.value, Nat.cast_succ, ← add_assoc, zpow_add_one₀ two_ne_zero]
    push_cast
    ring

/-- The next pattern is one unit of the last bit away. -/
theorem value_succ (f : Format) (n : ℕ) : f.value (n + 1) = f.value n + 2 ^ f.exponent n := by
  obtain ⟨k, m, h⟩ := f.exists_hasParts n
  have hnext : n + 1 = k * f.leadingOne + (m + 1) := by rw [h.pattern, Nat.add_assoc]
  have hlt := h.lt
  rw [hnext, value_scaled (by omega) (h.leading.imp_right Nat.le_succ_of_le), h.value, h.exponent]
  push_cast
  ring

theorem strictMono_value (f : Format) : StrictMono f.value :=
  strictMono_nat_of_lt_succ fun n => by
    rw [value_succ]
    exact lt_add_of_pos_right _ (by positivity)

@[simp] theorem value_zero (f : Format) : f.value 0 = 0 := by
  rw [value, significand_of_lt f.leadingOne_pos, Nat.cast_zero, zero_mul]

theorem value_nonneg (f : Format) (n : ℕ) : 0 ≤ f.value n := by
  rw [value]
  positivity

/-- The step below a pattern is as great as the one above it, or half of it at a leading one without
further bits. -/
theorem exponent_pred (hn : n ≠ 0) :
    f.exponent (n - 1) =
      if f.significand n = f.leadingOne ∧ f.leastExponent < f.exponent n then f.exponent n - 1
      else f.exponent n := by
  obtain ⟨k, m, h⟩ := f.exists_hasParts n
  have hpos := f.leadingOne_pos
  have hlt := h.lt
  rw [h.significand, h.exponent]
  split
  · next hleading =>
    obtain ⟨rfl, habove⟩ := hleading
    obtain ⟨j, rfl⟩ := Nat.exists_eq_succ_of_ne_zero (show k ≠ 0 by omega)
    -- the neighbour has all bits set, at the exponent before
    have hbelow : n - 1 = j * f.leadingOne + (2 * f.leadingOne - 1) := by
      rw [h.pattern, Nat.succ_mul]
      omega
    rw [hbelow, (hasParts_of_leading (by omega) (.inr (by omega))).exponent]
    push_cast
    ring
  · next hinside =>
    have hm : m ≠ 0 := by
      rintro rfl
      rcases h.leading with rfl | hle
      · exact hn (by rw [h.pattern, Nat.zero_mul])
      · omega
    have hbelow : n - 1 = k * f.leadingOne + (m - 1) := by
      rw [h.pattern]
      omega
    have hleading : k = 0 ∨ f.leadingOne ≤ m - 1 := by
      rcases Nat.eq_zero_or_pos k with hk | hk
      · exact .inl hk
      · have hne : m ≠ f.leadingOne := fun heq => hinside ⟨heq, by omega⟩
        have hle := h.leading.resolve_left (by omega)
        exact .inr (by omega)
    rw [hbelow, (hasParts_of_leading (by omega) hleading).exponent]

/-- What has few enough bits at an exponent that is not too small is the value of a pattern. -/
theorem exists_value_eq (k : ℕ) (hm : m < 2 * f.leadingOne) :
    ∃ n, f.value n = m * 2 ^ (f.leastExponent + k) := by
  induction k generalizing m with
  | zero => exact ⟨_, value_scaled hm.le (.inl rfl)⟩
  | succ k ih =>
    by_cases hleading : f.leadingOne ≤ m
    · exact ⟨_, value_scaled hm.le (.inr hleading)⟩
    · -- one bit is free, so the exponent can be one less
      obtain ⟨n, hn⟩ := ih (m := 2 * m) (by omega)
      refine ⟨n, ?_⟩
      rw [hn, Nat.cast_succ, ← add_assoc, zpow_add_one₀ two_ne_zero]
      push_cast
      ring

end Format

end TypedPrefs.Number
