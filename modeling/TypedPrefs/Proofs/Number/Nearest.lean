import TypedPrefs.Proofs.Number.Rounding
import TypedPrefs.Proofs.Number.Values

/-!
# Rounding to the nearest number

Rounding finds the pattern whose value is nearest, of two equally near ones the even one, and that
pattern is the only one. Where it lies at or beyond infinity the result is infinity. So what a
fraction or a decimal rounds to depends on nothing but its value.
-/

namespace TypedPrefs.Number

/-! ## Whole numbers -/

/-- A quotient is rounded by a half at most, and by a half only to an even number. -/
theorem roundQuotient_spec (num : ℕ) {den : ℕ} (hden : 0 < den) :
    2 * (roundQuotient num den * den) ≤ 2 * num + den ∧
      2 * num ≤ 2 * (roundQuotient num den * den) + den ∧
      (2 * (roundQuotient num den * den) = 2 * num + den ∨
        2 * num = 2 * (roundQuotient num den * den) + den → Even (roundQuotient num den)) := by
  have hsum := Nat.div_add_mod num den
  have hrest := Nat.mod_lt num hden
  have hnext : (num / den + 1) * den = num / den * den + den := Nat.succ_mul _ _
  rw [Nat.mul_comm] at hsum
  simp only [roundQuotient]
  split
  · exact ⟨by omega, by omega, fun h => by omega⟩
  · split
    · exact ⟨by omega, by omega, fun h => by omega⟩
    · -- a half: the result is even in any case
      have heven : Even (num / den + num / den % 2) := by
        rw [Nat.even_iff]
        omega
      rcases Nat.mod_two_eq_zero_or_one (num / den) with hq | hq
      · rw [hq, Nat.add_zero] at heven ⊢
        exact ⟨by omega, by omega, fun _ => heven⟩
      · rw [hq] at heven ⊢
        exact ⟨by omega, by omega, fun _ => heven⟩

/-- The same in units of `2 ^ q`. -/
theorem roundQuotient_scaled_spec (num : ℕ) {den : ℕ} (hden : den ≠ 0) (q : ℤ) {m : ℕ}
    (hm : roundQuotient (num * Nat.pow 2 (-q).toNat) (den * Nat.pow 2 q.toNat) = m) :
    2 * (m * 2 ^ q) ≤ 2 * (num / den : ℚ) + 2 ^ q ∧
      2 * (num / den : ℚ) ≤ 2 * (m * 2 ^ q) + 2 ^ q ∧
      (2 * (m * 2 ^ q) = 2 * (num / den : ℚ) + 2 ^ q ∨
        2 * (num / den : ℚ) = 2 * (m * 2 ^ q) + 2 ^ q → Even m) := by
  have hpos : 0 < den * Nat.pow 2 q.toNat :=
    Nat.mul_pos (Nat.pos_of_ne_zero hden) (Nat.pow_pos Nat.two_pos)
  obtain ⟨hlow, hhigh, heven⟩ :=
    roundQuotient_spec (num * Nat.pow 2 (-q).toNat) hpos
  rw [hm] at hlow hhigh heven
  -- everything is multiplied by what makes both the quotient and the unit whole
  have hden' : (0 : ℚ) < den := by exact_mod_cast Nat.pos_of_ne_zero hden
  set scale : ℚ := den * 2 ^ (-q).toNat with hscale
  have hscalePos : 0 < scale := by positivity
  have hquotient : (num / den : ℚ) * scale = (num * Nat.pow 2 (-q).toNat : ℕ) := by
    rw [hscale]
    push_cast [Nat.pow_eq]
    field_simp
  have hunit : (2 : ℚ) ^ q * scale = (den * Nat.pow 2 q.toNat : ℕ) := by
    rw [hscale]
    push_cast [Nat.pow_eq]
    rw [← zpow_mul_pow_toNat two_ne_zero q]
    ring
  have hrounded : 2 * (m * 2 ^ q) * scale = 2 * (m * (den * Nat.pow 2 q.toNat : ℕ)) := by
    rw [← hunit]
    ring
  have htwice : 2 * (num / den : ℚ) * scale = 2 * (num * Nat.pow 2 (-q).toNat : ℕ) := by
    rw [← hquotient]
    ring
  refine ⟨le_of_mul_le_mul_right ?_ hscalePos, le_of_mul_le_mul_right ?_ hscalePos,
    fun htie => heven (htie.imp (fun h => ?_) fun h => ?_)⟩
  · rw [add_mul, hrounded, htwice, hunit]
    exact_mod_cast hlow
  · rw [add_mul, hrounded, htwice, hunit]
    exact_mod_cast hhigh
  · have hscaled : 2 * (m * 2 ^ q) * scale = (2 * (num / den : ℚ) + 2 ^ q) * scale := by rw [h]
    rw [add_mul, hrounded, htwice, hunit] at hscaled
    exact_mod_cast hscaled
  · have hscaled : 2 * (num / den : ℚ) * scale = (2 * (m * 2 ^ q) + 2 ^ q) * scale := by rw [h]
    rw [add_mul, hrounded, htwice, hunit] at hscaled
    exact_mod_cast hscaled

namespace Format

variable {f : Format} {m n : ℕ} {r : ℚ}

/-! ## Nearest patterns -/

/-- No pattern has a value nearer to a number, and if another one is as near, this one is even. -/
structure IsNearest (f : Format) (r : ℚ) (n : ℕ) : Prop where
  le : ∀ m, |f.value n - r| ≤ |f.value m - r|
  even : ∀ m, m ≠ n → |f.value n - r| = |f.value m - r| → Even n

/-- Of two numbers the greater one is at least as near exactly from the middle on. -/
theorem nearer_upper_iff {a b : ℚ} (h : a < b) : |b - r| ≤ |a - r| ↔ a + b ≤ 2 * r := by
  rw [← sq_le_sq, ← sub_nonneg]
  have hfactor : (a - r) ^ 2 - (b - r) ^ 2 = (b - a) * (2 * r - (a + b)) := by ring
  rw [hfactor, mul_nonneg_iff_of_pos_left (by linarith), sub_nonneg]

/-- The smaller one is at least as near up to the middle. -/
theorem nearer_lower_iff {a b : ℚ} (h : a < b) : |a - r| ≤ |b - r| ↔ 2 * r ≤ a + b := by
  rw [← sq_le_sq, ← sub_nonneg]
  have hfactor : (b - r) ^ 2 - (a - r) ^ 2 = (b - a) * (a + b - 2 * r) := by ring
  rw [hfactor, mul_nonneg_iff_of_pos_left (by linarith), sub_nonneg]

/-- Both are equally near to the middle. -/
theorem equally_near_iff {a b : ℚ} (h : a < b) : |b - r| = |a - r| ↔ a + b = 2 * r := by
  rw [le_antisymm_iff, nearer_upper_iff h, nearer_lower_iff h, ← le_antisymm_iff]

/-- It is enough to look at both neighbours. The middle between neighbours is as near to the one as
to the other. -/
theorem isNearest_iff :
    f.IsNearest r n ↔
      (n ≠ 0 → f.value (n - 1) + f.value n ≤ 2 * r ∧
        (f.value (n - 1) + f.value n = 2 * r → Even n)) ∧
      2 * r ≤ f.value n + f.value (n + 1) ∧
        (2 * r = f.value n + f.value (n + 1) → Even n) := by
  have habove := f.strictMono_value (Nat.lt_succ_self n)
  constructor
  · intro h
    refine ⟨fun hn => ?_, (nearer_lower_iff habove).mp (h.le (n + 1)), fun htie => ?_⟩
    · have hbelow := f.strictMono_value (Nat.sub_one_lt hn)
      refine ⟨(nearer_upper_iff hbelow).mp (h.le (n - 1)), fun htie => ?_⟩
      exact h.even (n - 1) (by omega) ((equally_near_iff hbelow).mpr htie)
    · exact h.even (n + 1) (by omega) ((equally_near_iff habove).mpr htie.symm).symm
  · rintro ⟨hbelow, hmiddle, htie⟩
    -- whatever lies beyond a neighbour is farther away than the neighbour is
    have hlower : ∀ m < n, f.value m + f.value n ≤ 2 * r ∧
        (f.value m + f.value n = 2 * r → Even n) := by
      intro m hm
      obtain ⟨hle, heven⟩ := hbelow (by omega)
      have hmono := f.strictMono_value.monotone (show m ≤ n - 1 by omega)
      exact ⟨by linarith, fun heq => heven (by linarith)⟩
    have hupper : ∀ m > n, 2 * r ≤ f.value n + f.value m ∧
        (f.value n + f.value m = 2 * r → Even n) := by
      intro m hm
      have hmono := f.strictMono_value.monotone (show n + 1 ≤ m by omega)
      exact ⟨by linarith, fun heq => htie (by linarith)⟩
    refine ⟨fun m => ?_, fun m hne heq => ?_⟩
    · rcases lt_trichotomy m n with hm | rfl | hm
      · exact (nearer_upper_iff (f.strictMono_value hm)).mpr (hlower m hm).1
      · exact le_rfl
      · exact (nearer_lower_iff (f.strictMono_value hm)).mpr (hupper m hm).1
    · rcases lt_or_gt_of_ne hne with hm | hm
      · exact (hlower m hm).2 ((equally_near_iff (f.strictMono_value hm)).mp heq)
      · exact (hupper m hm).2 ((equally_near_iff (f.strictMono_value hm)).mp heq.symm)

/-- Two patterns that are both nearest would be neighbours, and then one of them is odd. -/
theorem IsNearest.unique (hm : f.IsNearest r m) (hn : f.IsNearest r n) : m = n := by
  have hsame : |f.value m - r| = |f.value n - r| := le_antisymm (hm.le n) (hn.le m)
  by_contra hne
  wlog hlt : m < n generalizing m n
  · exact this hn hm hsame.symm (Ne.symm hne) (by omega)
  have hmiddle := (equally_near_iff (f.strictMono_value hlt)).mp hsame.symm
  have hnext := (nearer_lower_iff (f.strictMono_value (Nat.lt_succ_self m))).mp (hm.le (m + 1))
  -- the number is in the middle, and not beyond the middle to the next pattern
  have hneighbour : ¬ m + 1 < n := by
    intro hbetween
    have hvalue := f.strictMono_value hbetween
    linarith
  obtain rfl : n = m + 1 := by omega
  have hevenm := hm.even (m + 1) (by omega) hsame
  have hevenn := hn.even m (by omega) hsame.symm
  exact Nat.not_even_iff_odd.mpr hevenm.add_one hevenn

/-- Nothing is nearer to a value than the value itself. -/
theorem isNearest_value (f : Format) (n : ℕ) : f.IsNearest (f.value n) n where
  le m := by simp
  even m hne heq := by
    rw [sub_self, abs_zero] at heq
    exact absurd (f.strictMono_value.injective (sub_eq_zero.mp (abs_eq_zero.mp heq.symm))) hne

/-! ## What rounding finds -/

theorem le_exponent {k : ℕ} (hm : m ≤ 2 * f.leadingOne) (hleading : k = 0 ∨ f.leadingOne ≤ m) :
    f.leastExponent + k ≤ f.exponent (k * f.leadingOne + m) := by
  rcases Nat.lt_or_eq_of_le hm with hlt | rfl
  · exact (hasParts_of_leading hlt hleading).exponent.ge
  · have hcarry : k * f.leadingOne + 2 * f.leadingOne =
        (k + 1) * f.leadingOne + f.leadingOne := by ring
    have hpos := f.leadingOne_pos
    rw [hcarry, (hasParts_of_leading (by omega) (.inr le_rfl)).exponent]
    push_cast
    omega

/-- A significand that is rounded to units of the last bit makes the nearest pattern, provided that
it has a leading one wherever units could be smaller. -/
theorem isNearest_of_rounded {k : ℕ} (hf : 2 ≤ f.precision) (hm : m ≤ 2 * f.leadingOne)
    (hleading : k = 0 ∨ f.leadingOne ≤ m)
    (hreached : k = 0 ∨ f.leadingOne * 2 ^ (f.leastExponent + k) ≤ r)
    (hlow : 2 * (m * 2 ^ (f.leastExponent + k)) ≤ 2 * r + 2 ^ (f.leastExponent + k))
    (hhigh : 2 * r ≤ 2 * (m * 2 ^ (f.leastExponent + k)) + 2 ^ (f.leastExponent + k))
    (heven : 2 * (m * 2 ^ (f.leastExponent + k)) = 2 * r + 2 ^ (f.leastExponent + k) ∨
      2 * r = 2 * (m * 2 ^ (f.leastExponent + k)) + 2 ^ (f.leastExponent + k) → Even m) :
    f.IsNearest r (k * f.leadingOne + m) := by
  have hunit : ∀ i : ℤ, f.leastExponent + k ≤ i →
      (2 : ℚ) ^ (f.leastExponent + k) ≤ 2 ^ i := fun i => zpow_le_zpow_right₀ one_le_two
  have hpositive : (0 : ℚ) < 2 ^ (f.leastExponent + k) := by positivity
  have hvalue := value_scaled hm hleading
  have hpattern : Even m → Even (k * f.leadingOne + m) :=
    fun h => ((even_leadingOne hf).mul_left k).add h
  rw [isNearest_iff]
  refine ⟨fun hn => ?_, ?_⟩
  · have hstep := f.value_succ (k * f.leadingOne + m - 1)
    rw [Nat.sub_add_cancel (Nat.pos_of_ne_zero hn)] at hstep
    by_cases hinside : k = 0 ∨ f.leadingOne ≤ m - 1
    · have hm' : m ≠ 0 := by
        rintro rfl
        have hpos := f.leadingOne_pos
        rcases hinside with rfl | hle
        · exact hn (by simp)
        · omega
      have hexponent := hunit _ (le_exponent (m := m - 1) (k := k) (by omega) hinside)
      rw [show k * f.leadingOne + (m - 1) = k * f.leadingOne + m - 1 by omega] at hexponent
      exact ⟨by linarith, fun htie => hpattern (heven (.inl (by linarith)))⟩
    · -- at a leading one the number itself is not below the pattern
      obtain ⟨hk, hm'⟩ := not_or.mp hinside
      obtain rfl : m = f.leadingOne := by
        have := hleading.resolve_left hk
        omega
      have hr := hreached.resolve_left hk
      have hlt := f.strictMono_value (Nat.sub_one_lt hn)
      exact ⟨by linarith, fun htie => by linarith⟩
  · have hstep := f.value_succ (k * f.leadingOne + m)
    have hexponent := hunit _ (le_exponent hm hleading)
    exact ⟨by linarith, fun htie => hpattern (heven (.inr (by linarith)))⟩

/-- What is rounded to units does not pass a multiple of them. -/
theorem rounded_le {q : ℤ} (hlow : 2 * (m * 2 ^ q) ≤ 2 * r + 2 ^ q)
    (hr : r ≤ n * 2 ^ q) : m ≤ n := by
  have hunit : (0 : ℚ) < 2 ^ q := by positivity
  have hhalf : (2 * m : ℚ) ≤ 2 * n + 1 := by
    refine le_of_mul_le_mul_right ?_ hunit
    linarith
  have : 2 * m ≤ 2 * n + 1 := by exact_mod_cast hhalf
  omega

theorem le_rounded {q : ℤ} (hhigh : 2 * r ≤ 2 * (m * 2 ^ q) + 2 ^ q)
    (hr : n * 2 ^ q ≤ r) : n ≤ m := by
  have hunit : (0 : ℚ) < 2 ^ q := by positivity
  have hhalf : (2 * n : ℚ) ≤ 2 * m + 1 := by
    refine le_of_mul_le_mul_right ?_ hunit
    linarith
  have : 2 * n ≤ 2 * m + 1 := by exact_mod_cast hhalf
  omega

theorem leadingOne_eq_zpow (f : Format) :
    (f.leadingOne : ℚ) = 2 ^ ((f.precision - 1 : ℕ) : ℤ) := by
  rw [leadingOne, zpow_natCast]
  push_cast [Nat.pow_eq]
  rfl

/-- **Rounding is to nearest, ties to even.** A fraction is rounded to the nearest pattern, or to
infinity if that is not less. -/
theorem round_spec (hf : 2 ≤ f.precision) (num : ℕ) {den : ℕ} (hden : den ≠ 0) :
    ∃ n, f.IsNearest (num / den) n ∧ f.round num den = min f.infinity n := by
  rw [Format.round]
  split
  · next hnum =>
    refine ⟨0, ?_, by simp⟩
    rw [hnum, Nat.cast_zero, zero_div, ← f.value_zero]
    exact f.isNearest_value 0
  · next hnum =>
    obtain ⟨hreached, hbound⟩ := binaryExponent_spec hnum hden
    set e := binaryExponent num den with he
    dsimp only
    set q := max f.leastExponent (e - (f.precision - 1 : ℕ)) with hq
    generalize hm : roundQuotient (num * Nat.pow 2 (-q).toNat) (den * Nat.pow 2 q.toNat) = m
    obtain ⟨hlow, hhigh, heven⟩ := roundQuotient_scaled_spec num hden q hm
    obtain ⟨k, hk⟩ : ∃ k : ℕ, q = f.leastExponent + k :=
      ⟨(q - f.leastExponent).toNat, by omega⟩
    have hbits : m ≤ 2 * f.leadingOne := by
      refine rounded_le hlow ?_
      rw [Nat.cast_mul, Nat.cast_two, leadingOne_eq_zpow, ← zpow_one_add₀ two_ne_zero,
        ← zpow_add₀ two_ne_zero]
      exact hbound.le.trans (zpow_le_zpow_right₀ one_le_two (by omega))
    have hreached' : k = 0 ∨ (f.leadingOne : ℚ) * 2 ^ q ≤ num / den := by
      rcases Nat.eq_zero_or_pos k with hzero | hpos
      · exact .inl hzero
      · rw [leadingOne_eq_zpow, ← zpow_add₀ two_ne_zero]
        exact .inr ((zpow_le_zpow_right₀ one_le_two (by omega)).trans hreached)
    have hleading : k = 0 ∨ f.leadingOne ≤ m := hreached'.imp_right (le_rounded hhigh)
    refine ⟨k * f.leadingOne + m, ?_, by rw [hk, add_sub_cancel_left, Int.toNat_natCast]⟩
    rw [hk] at hlow hhigh heven hreached'
    exact isNearest_of_rounded hf hbits hleading hreached' hlow hhigh heven

end Format

end TypedPrefs.Number
