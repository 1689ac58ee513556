import TypedPrefs.Number.Layout
import TypedPrefs.Proofs.Number.Nearest

/-!
# Decimals

What a decimal rounds to is decided by its value, also where it is so great or so small that its
digits are not looked at. The decimal that is written for a number is one that is nearest to it, so
it rounds back to that number.
-/

namespace TypedPrefs.Number

/-- The number that a decimal stands for. -/
def Decimal.value (d : Decimal) : ℚ := d.digits * 10 ^ d.exponent

namespace Format

variable {f : Format} {m n : ℕ}

/-! ## Reading decimals -/

/-- A format with an even leading one whose numbers are all within the reach of decimals. -/
structure IsOrdinary (f : Format) : Prop where
  precision : 2 ≤ f.precision
  least : -1074 ≤ f.leastExponent
  greatest : f.value f.infinity ≤ 2 ^ (1024 : ℤ)

theorem value_infinity_binary32 : binary32.value binary32.infinity = 2 ^ (128 : ℤ) := by
  have hsignificand : binary32.significand binary32.infinity = 2 ^ 23 := by decide
  have hexponent : binary32.exponent binary32.infinity = 105 := by decide
  rw [value, hsignificand, hexponent, Nat.cast_pow, Nat.cast_ofNat, ← zpow_natCast,
    ← zpow_add₀ two_ne_zero]
  rfl

theorem value_infinity_binary64 : binary64.value binary64.infinity = 2 ^ (1024 : ℤ) := by
  have hsignificand : binary64.significand binary64.infinity = 2 ^ 52 := by decide
  have hexponent : binary64.exponent binary64.infinity = 972 := by decide
  rw [value, hsignificand, hexponent, Nat.cast_pow, Nat.cast_ofNat, ← zpow_natCast,
    ← zpow_add₀ two_ne_zero]
  rfl

theorem isOrdinary_binary32 : binary32.IsOrdinary where
  precision := by decide
  least := by decide
  greatest := by
    rw [value_infinity_binary32]
    exact zpow_le_zpow_right₀ one_le_two (by decide)

theorem isOrdinary_binary64 : binary64.IsOrdinary where
  precision := by decide
  least := by decide
  greatest := value_infinity_binary64.le

/-- A decimal as a fraction. -/
theorem natCast_div_eq_value (digits : ℕ) (e : ℤ) :
    ((digits * Nat.pow 10 e.toNat : ℕ) : ℚ) / (Nat.pow 10 (-e).toNat : ℕ) =
      (⟨digits, e⟩ : Decimal).value := by
  have hpow : ((Nat.pow 10 (-e).toNat : ℕ) : ℚ) ≠ 0 :=
    Nat.cast_ne_zero.mpr (Nat.pow_pos (by decide)).ne'
  rw [div_eq_iff hpow, Decimal.value]
  push_cast [Nat.pow_eq]
  rw [mul_assoc, zpow_mul_pow_toNat (by norm_num)]

/-- Powers of ten lie between those of eight and sixteen. -/
theorem two_zpow_le_ten_zpow (e : ℤ) : (2 : ℚ) ^ (min (3 * e) (4 * e)) ≤ 10 ^ e := by
  rcases Int.le_total 0 e with he | he
  · rw [min_eq_left (by omega), zpow_mul]
    exact zpow_le_zpow_left₀ he (by norm_num) (by norm_num)
  · obtain ⟨k, rfl⟩ := Int.exists_eq_neg_ofNat he
    rw [min_eq_right (by omega), zpow_mul, zpow_neg, zpow_neg, zpow_natCast, zpow_natCast]
    gcongr
    norm_num

theorem ten_zpow_le_two_zpow (e : ℤ) : (10 : ℚ) ^ e ≤ 2 ^ (max (3 * e) (4 * e)) := by
  have h := two_zpow_le_ten_zpow (-e)
  rw [zpow_neg] at h
  have hsign : min (3 * -e) (4 * -e) = -max (3 * e) (4 * e) := by omega
  rw [hsign, zpow_neg] at h
  exact (inv_le_inv₀ (by positivity) (by positivity)).mp h

/-- A decimal whose size is beyond the reach of decimals is beyond all numbers. -/
theorem lt_value_of_reach {digits : ℕ} {e : ℤ} (hdigits : digits ≠ 0)
    (h : decimalReach < (digits.log2 : ℤ) / 4 + e) :
    (2 : ℚ) ^ (1024 : ℤ) < (⟨digits, e⟩ : Decimal).value := by
  rw [decimalReach] at h
  have hlog : (2 : ℚ) ^ (digits.log2 : ℤ) ≤ digits := by
    rw [zpow_natCast]
    exact_mod_cast Nat.log2_self_le hdigits
  calc (2 : ℚ) ^ (1024 : ℤ) < 2 ^ ((digits.log2 : ℤ) + min (3 * e) (4 * e)) :=
        zpow_lt_zpow_right₀ one_lt_two (by omega)
    _ = 2 ^ (digits.log2 : ℤ) * 2 ^ min (3 * e) (4 * e) := zpow_add₀ two_ne_zero _ _
    _ ≤ digits * 10 ^ e := by
      gcongr
      exact two_zpow_le_ten_zpow e

/-- A decimal below the reach of decimals is less than half of every number but zero. -/
theorem value_lt_of_reach {digits : ℕ} {e : ℤ} (h : (digits.log2 : ℤ) + e < -decimalReach) :
    2 * (⟨digits, e⟩ : Decimal).value < 2 ^ (-1074 : ℤ) := by
  rw [decimalReach] at h
  have hlog : (digits : ℚ) ≤ 2 ^ ((digits.log2 : ℤ) + 1) := by
    have hlt : digits < 2 ^ (digits.log2 + 1) := Nat.lt_log2_self
    exact_mod_cast hlt.le
  calc 2 * (digits * 10 ^ e : ℚ)
      ≤ 2 * (2 ^ ((digits.log2 : ℤ) + 1) * 2 ^ max (3 * e) (4 * e)) := by
        gcongr
        exact ten_zpow_le_two_zpow e
    _ = 2 ^ (1 + ((digits.log2 : ℤ) + 1 + max (3 * e) (4 * e))) := by
      rw [zpow_add₀ two_ne_zero 1, zpow_add₀ two_ne_zero _ (max _ _), zpow_one]
    _ < 2 ^ (-1074 : ℤ) := zpow_lt_zpow_right₀ one_lt_two (by omega)

theorem IsNearest.infinity_le {r : ℚ} (h : f.IsNearest r n) (hr : f.value f.infinity < r) :
    f.infinity ≤ n := by
  by_contra hlt
  obtain ⟨-, hmiddle, -⟩ := isNearest_iff.mp h
  have hn := f.strictMono_value.monotone (show n ≤ f.infinity by omega)
  have hnext := f.strictMono_value.monotone (show n + 1 ≤ f.infinity by omega)
  linarith

theorem IsNearest.eq_zero {r : ℚ} (h : f.IsNearest r n) (hr : 2 * r < 2 ^ f.leastExponent) :
    n = 0 := by
  by_contra hn
  obtain ⟨hbelow, -⟩ := isNearest_iff.mp h
  have hone : f.value 1 = 2 ^ f.leastExponent := by
    rw [← zero_add 1, value_succ, value_zero, zero_add, exponent_of_lt f.leadingOne_pos]
  have hn' := f.strictMono_value.monotone (Nat.one_le_iff_ne_zero.mpr hn)
  have hpred := f.value_nonneg (n - 1)
  have hle := (hbelow hn).1
  linarith

/-- **Decimals are rounded to nearest, ties to even.** -/
theorem IsOrdinary.roundDecimal_spec (hf : f.IsOrdinary) (digits : ℕ) (e : ℤ) :
    ∃ n, f.IsNearest (⟨digits, e⟩ : Decimal).value n ∧
      f.roundDecimal digits e = min f.infinity n := by
  have hden : Nat.pow 10 (-e).toNat ≠ 0 := (Nat.pow_pos (by decide)).ne'
  obtain ⟨n, hn, hround⟩ := round_spec hf.precision (digits * Nat.pow 10 e.toNat) hden
  rw [natCast_div_eq_value] at hn
  refine ⟨n, hn, ?_⟩
  simp only [roundDecimal]
  split
  · next hzero =>
    obtain rfl : n = 0 := hn.eq_zero (by simp [Decimal.value, hzero]; positivity)
    simp
  · next hdigits =>
    split
    · next hgreat =>
      have hbeyond := hf.greatest.trans_lt (lt_value_of_reach hdigits hgreat)
      exact (min_eq_left (hn.infinity_le hbeyond)).symm
    · split
      · next hsmall =>
        have hleast : (2 : ℚ) ^ (-1074 : ℤ) ≤ 2 ^ f.leastExponent :=
          zpow_le_zpow_right₀ one_le_two hf.least
        obtain rfl : n = 0 := hn.eq_zero ((value_lt_of_reach hsmall).trans_le hleast)
        simp
      · exact hround

/-- What a decimal is nearest to is what it rounds to. -/
theorem IsOrdinary.roundDecimal_eq (hf : f.IsOrdinary) {d : Decimal} (h : f.IsNearest d.value n)
    (hn : n < f.infinity) : f.roundDecimal d.digits d.exponent = n := by
  obtain ⟨m, hm, hround⟩ := hf.roundDecimal_spec d.digits d.exponent
  obtain rfl : m = n := hm.unique h
  rw [hround, min_eq_right hn.le]

/-! ## The decimals of numbers -/

/-- The comparison of scaled numbers is that of their values. -/
theorem compareScaled_eq (a : ℕ) (i : ℤ) (b : ℕ) (j : ℤ) :
    compareScaled a i b j = compare (a * 10 ^ i : ℚ) (b * 2 ^ j) := by
  have hscale : (0 : ℚ) < 10 ^ (-i).toNat * 2 ^ (-j).toNat := by positivity
  have hleft : (a * 10 ^ i : ℚ) * (10 ^ (-i).toNat * 2 ^ (-j).toNat) =
      (a * Nat.pow 10 i.toNat * Nat.pow 2 (-j).toNat : ℕ) := by
    push_cast [Nat.pow_eq]
    rw [← zpow_mul_pow_toNat (show (10 : ℚ) ≠ 0 by norm_num) i]
    ring
  have hright : (b * 2 ^ j : ℚ) * (10 ^ (-i).toNat * 2 ^ (-j).toNat) =
      (b * Nat.pow 2 j.toNat * Nat.pow 10 (-i).toNat : ℕ) := by
    push_cast [Nat.pow_eq]
    rw [← zpow_mul_pow_toNat two_ne_zero j]
    ring
  have hlt : (a * 10 ^ i : ℚ) < b * 2 ^ j ↔
      a * Nat.pow 10 i.toNat * Nat.pow 2 (-j).toNat <
        b * Nat.pow 2 j.toNat * Nat.pow 10 (-i).toNat := by
    rw [← mul_lt_mul_iff_left₀ hscale, hleft, hright, Nat.cast_lt]
  have heq : (a * 10 ^ i : ℚ) = b * 2 ^ j ↔
      a * Nat.pow 10 i.toNat * Nat.pow 2 (-j).toNat =
        b * Nat.pow 2 j.toNat * Nat.pow 10 (-i).toNat := by
    rw [← mul_left_inj' hscale.ne', hleft, hright, Nat.cast_inj]
  rw [compareScaled]
  rcases lt_trichotomy (a * 10 ^ i : ℚ) (b * 2 ^ j) with h | h | h
  · rw [compare_lt_iff_lt.mpr h, compare_lt_iff_lt.mpr (hlt.mp h)]
  · rw [compare_eq_iff_eq.mpr h, compare_eq_iff_eq.mpr (heq.mp h)]
  · have hgt : b * Nat.pow 2 j.toNat * Nat.pow 10 (-i).toNat <
        a * Nat.pow 10 i.toNat * Nat.pow 2 (-j).toNat :=
      lt_of_le_of_ne (not_lt.mp (mt hlt.mpr h.not_gt)) (mt (fun he => heq.mpr he.symm) h.ne')
    rw [compare_gt_iff_gt.mpr h, compare_gt_iff_gt.mpr hgt]

theorem significand_ne_zero (hn : n ≠ 0) : f.significand n ≠ 0 := by
  intro hzero
  have hvalue : f.value n = f.value 0 := by rw [value_zero, value, hzero, Nat.cast_zero, zero_mul]
  exact hn (f.strictMono_value.injective hvalue)

theorem even_significand_iff (hf : 2 ≤ f.precision) : Even (f.significand n) ↔ Even n := by
  obtain ⟨k, m, h⟩ := f.exists_hasParts n
  rw [h.significand, h.even_iff hf]

/-- A quarter of the unit of the last bit. -/
theorem two_zpow_eq_quarters (q : ℤ) : (2 : ℚ) ^ q = 4 * 2 ^ (q - 2) := by
  rw [zpow_sub₀ two_ne_zero]
  norm_num
  ring

/-- The middle between a pattern and the one before it, in quarters of the unit. -/
theorem middle_below (hn : n ≠ 0) :
    ((if f.significand n = f.leadingOne ∧ f.leastExponent < f.exponent n then
        4 * f.significand n - 1 else 4 * f.significand n - 2 : ℕ) : ℚ) * 2 ^ (f.exponent n - 2) =
      (f.value (n - 1) + f.value n) / 2 := by
  have hm := significand_ne_zero (f := f) hn
  have hstep := f.value_succ (n - 1)
  rw [Nat.sub_add_cancel (Nat.pos_of_ne_zero hn), exponent_pred hn] at hstep
  have hvalue : f.value n = f.significand n * (4 * 2 ^ (f.exponent n - 2)) := by
    rw [← two_zpow_eq_quarters, value]
  split
  · next hnarrow =>
    rw [if_pos hnarrow, zpow_sub_one₀ two_ne_zero, two_zpow_eq_quarters] at hstep
    rw [Nat.cast_sub (by omega)]
    push_cast
    linarith
  · next hwide =>
    rw [if_neg hwide, two_zpow_eq_quarters] at hstep
    rw [Nat.cast_sub (by omega)]
    push_cast
    linarith

/-- The middle between a pattern and the one behind it. -/
theorem middle_above (f : Format) (n : ℕ) :
    ((4 * f.significand n + 2 : ℕ) : ℚ) * 2 ^ (f.exponent n - 2) =
      (f.value n + f.value (n + 1)) / 2 := by
  rw [value_succ, value, two_zpow_eq_quarters (f.exponent n)]
  push_cast
  ring

/-- A decimal that reads back is one that the pattern is nearest to. -/
theorem readsBack_iff (hf : 2 ≤ f.precision) (hn : n ≠ 0) {d : Decimal} :
    f.readsBack n d = true ↔ f.IsNearest d.value n := by
  have hclosed : f.significand n % 2 = 0 ↔ Even n :=
    Nat.even_iff.symm.trans (even_significand_iff hf)
  simp only [readsBack, compareScaled_eq, Bool.and_eq_true, Bool.or_eq_true, decide_eq_true_eq,
    compare_gt_iff_gt, compare_lt_iff_lt, compare_eq_iff_eq, middle_below hn, middle_above,
    hclosed, isNearest_iff]
  change ((_ < d.value ∨ _ ∧ d.value = _) ∧ (d.value < _ ∨ _ ∧ d.value = _)) ↔ _
  constructor
  · rintro ⟨hlow, hhigh⟩
    refine ⟨fun _ => ⟨?_, fun htie => ?_⟩, ?_, fun htie => ?_⟩
    · rcases hlow with hlt | ⟨-, heq⟩ <;> linarith
    · exact hlow.elim (fun hlt => by linarith) And.left
    · rcases hhigh with hlt | ⟨-, heq⟩ <;> linarith
    · exact hhigh.elim (fun hlt => by linarith) And.left
  · rintro ⟨hlow, hhigh, hevenHigh⟩
    obtain ⟨hle, hevenLow⟩ := hlow hn
    constructor
    · rcases lt_or_eq_of_le hle with hlt | heq
      · exact .inl (by linarith)
      · exact .inr ⟨hevenLow heq, by linarith⟩
    · rcases lt_or_eq_of_le hhigh with hlt | heq
      · exact .inl (by linarith)
      · exact .inr ⟨hevenHigh heq, by linarith⟩

/-- Exact decimals are exact. -/
theorem value_exactDecimal (f : Format) (n : ℕ) : (f.exactDecimal n).value = f.value n := by
  have hpow : (10 : ℚ) ^ (-f.exponent n).toNat = 2 ^ (-f.exponent n).toNat *
      5 ^ (-f.exponent n).toNat := by
    rw [← mul_pow]
    norm_num
  have hbinary := zpow_mul_pow_toNat (two_ne_zero (α := ℚ)) (f.exponent n)
  rw [exactDecimal, Decimal.value, value, zpow_neg, zpow_natCast, ← div_eq_mul_inv,
    div_eq_iff (by positivity), hpow]
  push_cast [Nat.pow_eq]
  rw [← hbinary]
  ring

theorem readsBack_of_nearestAt? {e : ℤ} {d : Decimal} (h : f.nearestAt? n e = some d) :
    f.readsBack n d = true := by
  simp only [nearestAt?] at h
  split at h
  · next hbelow habove =>
    obtain ⟨-, hbelow⟩ := Bool.and_eq_true _ _ ▸ hbelow
    cases h
    split
    · exact hbelow
    · exact habove
  · next hbelow _ =>
    obtain ⟨-, hbelow⟩ := Bool.and_eq_true _ _ ▸ hbelow
    cases h
    exact hbelow
  · next habove =>
    cases h
    exact habove
  · cases h

theorem readsBack_of_shortestFrom {fuel : ℕ} {e : ℤ} {d : Decimal}
    (h : f.shortestFrom n fuel e = some d) : f.readsBack n d = true := by
  induction fuel generalizing e with
  | zero => cases h
  | succ fuel ih =>
    rw [shortestFrom, Option.or_eq_some_iff] at h
    rcases h with h | ⟨-, h⟩
    · exact readsBack_of_nearestAt? h
    · exact ih h

/-- The decimal that is written for a number rounds to it. -/
theorem isNearest_shortest (hf : 2 ≤ f.precision) (hn : n ≠ 0) :
    f.IsNearest (f.shortest n).value n := by
  rw [shortest]
  cases h : f.shortestFrom n digitLimit (f.scale n - 1) with
  | some d => exact (readsBack_iff hf hn).mp (readsBack_of_shortestFrom h)
  | none =>
    rw [Option.getD_none, value_exactDecimal]
    exact f.isNearest_value n

end Format

namespace Decimal

/-- Moving zeros into the exponent does not change the value. -/
theorem value_stripZeros (fuel : ℕ) (d : Decimal) : (d.stripZeros fuel).value = d.value := by
  induction fuel generalizing d with
  | zero => rfl
  | succ fuel ih =>
    rw [stripZeros]
    split
    · next h =>
      simp only [Bool.and_eq_true, decide_eq_true_eq] at h
      have htens : (d.digits : ℚ) = 10 * (d.digits / 10 : ℕ) := by
        have hnat : d.digits = 10 * (d.digits / 10) := by omega
        exact_mod_cast hnat
      rw [ih, value, value, zpow_add_one₀ (by norm_num), htens]
      ring
    · rfl

end Decimal

/-- The decimal of a pattern, zero included, rounds to the pattern. -/
theorem Format.isNearest_toDecimal {f : Format} (hf : 2 ≤ f.precision) (n : ℕ) :
    f.IsNearest (f.toDecimal n).value n := by
  rw [Format.toDecimal]
  split
  · next h =>
    have hzero : (⟨0, 0⟩ : Decimal).value = f.value n := by simp [Decimal.value, h]
    rw [hzero]
    exact f.isNearest_value n
  · next h =>
    rw [Decimal.value_stripZeros]
    exact Format.isNearest_shortest hf h

end TypedPrefs.Number
