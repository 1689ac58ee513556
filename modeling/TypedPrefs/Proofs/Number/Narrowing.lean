import TypedPrefs.Proofs.Number.Decimals

/-!
# Numbers with signs, and numbers with fewer bits

A number of 32 or of 64 bits is a sign in front of a magnitude. Both parts can be taken out again,
and so the values of the magnitudes give those of the numbers. A number of 64 bits is made one of 32
bits by rounding its magnitude, which is infinite from the middle between the greatest magnitude and
the next power of two on.
-/

namespace TypedPrefs.Number

/-! ## Signs -/

/-- The parts of a pattern with a sign. -/
theorem pattern_parts {s m : ℕ} (negative : Bool) (h : m < s) :
    (m + if negative then s else 0) % s = m ∧
      decide (s ≤ m + if negative then s else 0) = negative := by
  cases negative with
  | false => simp [Nat.mod_eq_of_lt h, h]
  | true => simp [Nat.mod_eq_of_lt h]

/-- A pattern is put together from its parts. -/
theorem pattern_of_parts {s n : ℕ} (h : n < 2 * s) :
    (n % s + if decide (s ≤ n) then s else 0) = n := by
  by_cases hs : s ≤ n
  · have hmod : n % s = n - s := by
      rw [Nat.mod_eq_sub_mod hs, Nat.mod_eq_of_lt (by omega)]
    simp [hs, hmod]
  · simp [hs, Nat.mod_eq_of_lt (Nat.lt_of_not_le hs)]

/-- A magnitude with a sign. -/
def withSign (negative : Bool) (r : ℚ) : ℚ := if negative then -r else r

theorem abs_withSign (negative : Bool) {r : ℚ} (h : 0 ≤ r) : |withSign negative r| = r := by
  cases negative with
  | false => exact abs_of_nonneg h
  | true => exact (abs_neg r).trans (abs_of_nonneg h)

theorem withSign_intCast (i : ℤ) : withSign (i < 0) (i.natAbs : ℚ) = i := by
  have habs : ((i.natAbs : ℤ) : ℚ) = |(i : ℚ)| := by rw [Int.natCast_natAbs, Int.cast_abs]
  rw [Int.cast_natCast] at habs
  rw [withSign, habs]
  by_cases h : i < 0
  · rw [abs_of_neg (by exact_mod_cast h), if_pos (by simpa using h), neg_neg]
  · rw [abs_of_nonneg (by exact_mod_cast Int.not_lt.mp h), if_neg (by simpa using h)]

namespace Single

theorem toNat_ofParts (negative : Bool) {m : ℕ} (h : m < binary32.signBit) :
    (ofParts negative m).bits.toNat = m + if negative then binary32.signBit else 0 := by
  have hsign : binary32.signBit = 2 ^ 31 := rfl
  rw [ofParts, Nat.toUInt32_eq, UInt32.toNat_ofNat']
  refine Nat.mod_eq_of_lt ?_
  split <;> omega

theorem magnitude_ofParts (negative : Bool) {m : ℕ} (h : m < binary32.signBit) :
    (ofParts negative m).magnitude = m := by
  rw [magnitude, toNat_ofParts negative h]
  exact (pattern_parts negative h).1

theorem isNegative_ofParts (negative : Bool) {m : ℕ} (h : m < binary32.signBit) :
    (ofParts negative m).isNegative = negative := by
  rw [isNegative, toNat_ofParts negative h]
  exact (pattern_parts negative h).2

theorem ofParts_parts (x : Single) : ofParts x.isNegative x.magnitude = x := by
  have hlt : x.bits.toNat < 2 * binary32.signBit := x.bits.toNat_lt
  rw [ofParts, magnitude, isNegative, pattern_of_parts hlt]
  simp

/-- The number that a finite pattern stands for. -/
def value (x : Single) : ℚ := withSign x.isNegative (binary32.value x.magnitude)

end Single

namespace Double

theorem toNat_ofParts (negative : Bool) {m : ℕ} (h : m < binary64.signBit) :
    (ofParts negative m).bits.toNat = m + if negative then binary64.signBit else 0 := by
  have hsign : binary64.signBit = 2 ^ 63 := rfl
  rw [ofParts, Nat.toUInt64_eq, UInt64.toNat_ofNat']
  refine Nat.mod_eq_of_lt ?_
  split <;> omega

theorem magnitude_ofParts (negative : Bool) {m : ℕ} (h : m < binary64.signBit) :
    (ofParts negative m).magnitude = m := by
  rw [magnitude, toNat_ofParts negative h]
  exact (pattern_parts negative h).1

theorem isNegative_ofParts (negative : Bool) {m : ℕ} (h : m < binary64.signBit) :
    (ofParts negative m).isNegative = negative := by
  rw [isNegative, toNat_ofParts negative h]
  exact (pattern_parts negative h).2

theorem ofParts_parts (x : Double) : ofParts x.isNegative x.magnitude = x := by
  have hlt : x.bits.toNat < 2 * binary64.signBit := x.bits.toNat_lt
  rw [ofParts, magnitude, isNegative, pattern_of_parts hlt]
  simp

/-- The number that a finite pattern stands for. -/
def value (x : Double) : ℚ := withSign x.isNegative (binary64.value x.magnitude)

theorem abs_value (x : Double) : |x.value| = binary64.value x.magnitude :=
  abs_withSign _ (Format.value_nonneg _ _)

end Double

/-! ## Bounds of what is rounded -/

namespace Format

variable {f : Format} {m n : ℕ} {r : ℚ}

/-- Rounding does not pass a pattern. -/
theorem IsNearest.le_of_le (h : f.IsNearest r n) (hr : r ≤ f.value m) : n ≤ m := by
  by_contra hlt
  obtain ⟨hbelow, -⟩ := isNearest_iff.mp h
  have hpred := f.strictMono_value.monotone (show m ≤ n - 1 by omega)
  have hn := f.strictMono_value (show m < n by omega)
  have hle := (hbelow (by omega)).1
  linarith

/-- Where the next pattern is even, the middle is rounded up to it. -/
theorem IsNearest.lt_iff (h : f.IsNearest r n) (heven : Even (m + 1)) :
    m < n ↔ f.value m + f.value (m + 1) ≤ 2 * r := by
  obtain ⟨hbelow, habove, htie⟩ := isNearest_iff.mp h
  constructor
  · intro hlt
    have hpred := f.strictMono_value.monotone (show m ≤ n - 1 by omega)
    have hn := f.strictMono_value.monotone (show m + 1 ≤ n by omega)
    have hle := (hbelow (by omega)).1
    linarith
  · intro hmiddle
    by_contra hle
    have hn := f.strictMono_value.monotone (show n ≤ m by omega)
    have hnext := f.strictMono_value.monotone (show n + 1 ≤ m + 1 by omega)
    have hsame : f.value n = f.value m := by linarith
    obtain rfl : n = m := f.strictMono_value.injective hsame
    exact Nat.not_even_iff_odd.mpr (htie (by linarith)).add_one heven

end Format

/-! ## From 64 bits to 32 bits -/

theorem value_greatest : binary32.value Single.greatest = 2 ^ (128 : ℤ) - 2 ^ (104 : ℤ) := by
  have hstep := binary32.value_succ Single.greatest
  have hexponent : binary32.exponent Single.greatest = 104 := by decide
  have hnext : binary32.value (Single.greatest + 1) = 2 ^ (128 : ℤ) :=
    Format.value_infinity_binary32
  rw [hnext, hexponent] at hstep
  linarith

namespace Double

/-- **The magnitude is rounded to nearest, ties to even.** -/
theorem singleMagnitude_spec (n : ℕ) :
    ∃ m, binary32.IsNearest (binary64.value n) m ∧
      singleMagnitude n = min binary32.infinity m := by
  set q := binary64.exponent n with hq
  have hden : Nat.pow 2 (-q).toNat ≠ 0 := (Nat.pow_pos Nat.two_pos).ne'
  obtain ⟨m, hm, hround⟩ := Format.round_spec (f := binary32) (by decide)
    (binary64.significand n * Nat.pow 2 q.toNat) hden
  refine ⟨m, ?_, hround⟩
  convert hm using 1
  rw [eq_div_iff (by exact_mod_cast hden), Format.value, mul_assoc]
  simp only [Nat.pow_eq, Nat.cast_mul, Nat.cast_pow, Nat.cast_ofNat]
  rw [zpow_mul_pow_toNat two_ne_zero]

theorem singleMagnitude_lt (n : ℕ) : singleMagnitude n < binary32.signBit := by
  obtain ⟨m, -, hround⟩ := singleMagnitude_spec n
  rw [hround]
  exact (min_le_left _ _).trans_lt (by decide)

variable {x : Double}

theorem toSingle_of_finite (h : x.isFinite = true) :
    x.toSingle = .ofParts x.isNegative (singleMagnitude x.magnitude) := if_pos h

theorem magnitude_toSingle (h : x.isFinite = true) :
    x.toSingle.magnitude = singleMagnitude x.magnitude := by
  rw [toSingle_of_finite h, Single.magnitude_ofParts _ (singleMagnitude_lt _)]

theorem isNegative_toSingle (h : x.isFinite = true) :
    x.toSingle.isNegative = x.isNegative := by
  rw [toSingle_of_finite h, Single.isNegative_ofParts _ (singleMagnitude_lt _)]

/-- From the middle between the greatest number and the next power of two on, rounding gives
infinity. -/
theorem isFinite_toSingle_iff (h : x.isFinite = true) :
    x.toSingle.isFinite = false ↔ 2 ^ (128 : ℤ) - 2 ^ (103 : ℤ) ≤ |x.value| := by
  obtain ⟨m, hm, hround⟩ := singleMagnitude_spec x.magnitude
  have hgreatest : Single.greatest + 1 = binary32.infinity := rfl
  have heven : Even binary32.infinity := Format.even_infinity (by decide)
  have hover := hm.lt_iff (show Even (Single.greatest + 1) from heven)
  rw [Single.isFinite, magnitude_toSingle h, hround, abs_value, decide_eq_false_iff_not, Nat.not_lt,
    le_min_iff, and_iff_right le_rfl, ← hgreatest, Nat.succ_le_iff, hover, hgreatest,
    value_greatest, Format.value_infinity_binary32]
  constructor <;> intro hle <;> linarith

end Double

end TypedPrefs.Number
