import TypedPrefs.Proofs.Persist.FloatingDefaults

/-!
# Integers as defaults of floating-point kinds

An integer that is given for a floating-point kind becomes the nearest number of 64 bits, and for 32
bits the number nearest to that. Nothing is refused on the way, and the sign stays. The number is
the integer that was given exactly if the kind has bits enough for it.
-/

namespace TypedPrefs

open Number

/-! ## Integers of a format -/

/-- An integer with at most so many bits, apart from zeros at its end. -/
def HasBits (p : ℕ) (i : ℤ) : Prop := ∃ m e : ℕ, m < 2 ^ p ∧ i.natAbs = m * 2 ^ e

theorem HasBits.mono {p q : ℕ} {i : ℤ} (h : HasBits p i) (hpq : p ≤ q) : HasBits q i := by
  obtain ⟨m, e, hm, hi⟩ := h
  exact ⟨m, e, hm.trans_le (Nat.pow_le_pow_right Nat.two_pos hpq), hi⟩

namespace Number.Format

variable {f : Format} {n : ℕ}

theorem two_mul_leadingOne (hf : 2 ≤ f.precision) : 2 * f.leadingOne = 2 ^ f.precision := by
  rw [leadingOne, Nat.pow_eq, ← Nat.pow_succ']
  congr 1
  omega

theorem significand_lt (hf : 2 ≤ f.precision) (n : ℕ) : f.significand n < 2 ^ f.precision := by
  obtain ⟨k, m, h⟩ := f.exists_hasParts n
  rw [← two_mul_leadingOne hf, h.significand]
  exact h.lt

/-- The integers among the values of a format are those with few enough bits. -/
theorem exists_value_eq_natAbs_iff (hf : 2 ≤ f.precision) (hleast : f.leastExponent ≤ 0) (i : ℤ) :
    (∃ n, f.value n = i.natAbs) ↔ HasBits f.precision i := by
  constructor
  · rintro ⟨n, hn⟩
    have hlt := significand_lt hf n
    rcases Int.le_total 0 (f.exponent n) with he | he
    · obtain ⟨e, he⟩ := Int.eq_ofNat_of_zero_le he
      rw [value, he, zpow_natCast] at hn
      exact ⟨f.significand n, e, hlt, by exact_mod_cast hn.symm⟩
    · -- with a negative exponent the integer is at most its own significand
      have hle : f.value n ≤ f.significand n := by
        rw [value]
        exact mul_le_of_le_one_right (Nat.cast_nonneg _) (zpow_le_one_of_nonpos₀ one_le_two he)
      rw [hn] at hle
      have hle' : i.natAbs ≤ f.significand n := by exact_mod_cast hle
      exact ⟨i.natAbs, 0, hle'.trans_lt hlt, by rw [Nat.pow_zero, Nat.mul_one]⟩
  · rintro ⟨m, e, hm, hi⟩
    rw [← two_mul_leadingOne hf] at hm
    obtain ⟨n, hn⟩ := exists_value_eq (-f.leastExponent + e).toNat hm
    refine ⟨n, ?_⟩
    rw [hn, hi, Int.toNat_of_nonneg (by omega), show f.leastExponent + (-f.leastExponent + e) = e by
      omega, zpow_natCast]
    push_cast
    rfl

/-- A value is met exactly if it is one of the format. -/
theorem IsNearest.value_eq_iff {r : ℚ} (h : f.IsNearest r n) :
    f.value n = r ↔ ∃ m, f.value m = r := by
  constructor
  · exact fun hn => ⟨n, hn⟩
  · rintro ⟨m, rfl⟩
    rw [h.unique (f.isNearest_value m)]

/-- Up to `2 ^ 63` nothing is infinite, and rounding does not pass that bound. -/
theorem IsNearest.value_le_two_pow (hleast : f.leastExponent ≤ 0)
    (hgreat : (2 : ℚ) ^ 63 < f.value f.infinity) {r : ℚ} (h : f.IsNearest r n) (hr : r ≤ 2 ^ 63) :
    n < f.infinity ∧ f.value n ≤ 2 ^ 63 := by
  have hone : 1 < 2 * f.leadingOne := by
    have := f.leadingOne_pos
    omega
  obtain ⟨m, hm⟩ := exists_value_eq (-f.leastExponent + 63).toNat hone
  have hbound : f.value m = 2 ^ 63 := by
    rw [hm, Int.toNat_of_nonneg (by omega), show f.leastExponent + (-f.leastExponent + 63) = 63 by
      omega]
    norm_num
  have hle : n ≤ m := h.le_of_le (hr.trans_eq hbound.symm)
  have hlt : m < f.infinity := f.strictMono_value.lt_iff_lt.mp (hbound.trans_lt hgreat)
  exact ⟨hle.trans_lt hlt, (f.strictMono_value.monotone hle).trans_eq hbound⟩

end Number.Format

theorem Number.withSign_eq_intCast_iff {i : ℤ} {r : ℚ} :
    withSign (i < 0) r = i ↔ r = i.natAbs := by
  constructor
  · intro h
    rw [← withSign_intCast i, withSign, withSign] at h
    split at h
    · exact neg_inj.mp h
    · exact h
  · rintro rfl
    exact withSign_intCast i

/-! ## Conversions -/

namespace Number.Double

/-- An integer of 64 bits becomes the nearest number, which is finite. -/
theorem ofInt_spec {i : ℤ} (hi : isInt64 i = true) :
    ∃ n, binary64.IsNearest i.natAbs n ∧ binary64.value n ≤ 2 ^ 63 ∧
      (ofInt i).isFinite = true ∧ (ofInt i).magnitude = n ∧
      (ofInt i).isNegative = decide (i < 0) := by
  obtain ⟨n, hn, hround⟩ :=
    Format.round_spec (f := binary64) (by decide) i.natAbs Nat.one_ne_zero
  rw [Nat.cast_one, div_one] at hn
  have hbound : (i.natAbs : ℚ) ≤ 2 ^ 63 := by
    have hlow : (signedRange 64).1 = -2 ^ 63 := rfl
    have hhigh : (signedRange 64).2 = 2 ^ 63 - 1 := rfl
    rw [isInt64, hlow, hhigh, Bool.and_eq_true, decide_eq_true_eq, decide_eq_true_eq] at hi
    have hnat : i.natAbs ≤ 2 ^ 63 := by omega
    exact_mod_cast hnat
  have hgreat : (2 : ℚ) ^ 63 < binary64.value binary64.infinity := by
    rw [Format.value_infinity_binary64, ← zpow_natCast]
    exact zpow_lt_zpow_right₀ one_lt_two (by norm_num)
  obtain ⟨hlt, hvalue⟩ := hn.value_le_two_pow (by decide) hgreat hbound
  have hsign : n < binary64.signBit := hlt.trans (by decide)
  rw [ofInt, hround, min_eq_right hlt.le, isFinite, magnitude_ofParts _ hsign,
    isNegative_ofParts _ hsign]
  exact ⟨n, hn, hvalue, decide_eq_true hlt, rfl, rfl⟩

/-- Rounded to 32 bits a number of that size stays finite. -/
theorem toSingle_spec {x : Double} (hfinite : x.isFinite = true)
    (hvalue : binary64.value x.magnitude ≤ 2 ^ 63) :
    ∃ m, binary32.IsNearest (binary64.value x.magnitude) m ∧ x.toSingle.isFinite = true ∧
      x.toSingle.magnitude = m := by
  obtain ⟨m, hm, hround⟩ := singleMagnitude_spec x.magnitude
  have hgreat : (2 : ℚ) ^ 63 < binary32.value binary32.infinity := by
    rw [Format.value_infinity_binary32]
    norm_num
  obtain ⟨hlt, -⟩ := hm.value_le_two_pow (by decide) hgreat hvalue
  rw [Single.isFinite, magnitude_toSingle hfinite, hround, min_eq_right hlt.le]
  exact ⟨m, hm, decide_eq_true hlt, rfl⟩

end Number.Double

/-! ## Defaults -/

namespace DefaultValue

open DefaultCode (ofDefault)

variable {i : ℤ}

/-- The integer as a default of 64 bits. -/
theorem double_of_integer (hi : isInt64 i = true) :
    resolve .double (some (.integer i)) = .ok (.floating (.ofInt i)) ∧
      binary64.IsNearest i.natAbs (Double.ofInt i).magnitude ∧
      (Double.ofInt i).isNegative = decide (i < 0) ∧
      (∀ v, Evaluates .double (ofDefault .double (.floating (.ofInt i))).tokens v ↔ v = .ofInt i) ∧
      ((Double.ofInt i).value = i ↔ HasBits 53 i) := by
  obtain ⟨n, hn, -, hfinite, hmagnitude, hnegative⟩ := Double.ofInt_spec hi
  refine ⟨rfl, hmagnitude ▸ hn, hnegative, fun v => ?_, ?_⟩
  · rw [evaluates_iff (.double _) (by decide), valueAs_double (Double.isNaN_of_isFinite hfinite)]
  · rw [Double.value, hmagnitude, hnegative, withSign_eq_intCast_iff, hn.value_eq_iff]
    exact Format.exists_value_eq_natAbs_iff (f := binary64) (by decide) (by decide) i

/-- The integer as a default of 32 bits. -/
theorem float_of_integer (hi : isInt64 i = true) :
    resolve .float (some (.integer i)) = .ok (.floating (.ofInt i)) ∧
      ∃ y : Single, binary32.IsNearest (binary64.value (Double.ofInt i).magnitude) y.magnitude ∧
        y.isNegative = decide (i < 0) ∧
        (∀ v, Evaluates .float (ofDefault .float (.floating (.ofInt i))).tokens v ↔ v = y) ∧
        (y.value = i ↔ HasBits 24 i) := by
  obtain ⟨n, hn, hbound, hfinite, hmagnitude, hnegative⟩ := Double.ofInt_spec hi
  rw [← hmagnitude] at hn hbound
  obtain ⟨m, hm, hsingle, hmagnitude'⟩ := Double.toSingle_spec hfinite hbound
  have hsign : (Double.ofInt i).toSingle.isNegative = decide (i < 0) := by
    rw [Double.isNegative_toSingle hfinite, hnegative]
  refine ⟨?_, (Double.ofInt i).toSingle, hmagnitude' ▸ hm, hsign, fun v => ?_, ?_⟩
  · show ofFloating .float _ = _
    refine resolve_float_of_le ?_
    rw [Double.abs_value, value_greatest]
    exact hbound.trans (by norm_num)
  · rw [evaluates_iff (.float fun _ => hsingle) (by decide),
      valueAs_float (Double.isNaN_of_isFinite hfinite) fun _ => hsingle]
  · rw [Single.value, hmagnitude', hsign, withSign_eq_intCast_iff]
    have hsingleBits := Format.exists_value_eq_natAbs_iff (f := binary32) (by decide) (by decide) i
    have hdoubleBits := Format.exists_value_eq_natAbs_iff (f := binary64) (by decide) (by decide) i
    constructor
    · exact fun h => hsingleBits.mp ⟨m, h⟩
    · -- with so few bits the first rounding changes nothing either
      intro h
      rw [hn.value_eq_iff.mpr (hdoubleBits.mpr (h.mono (by decide)))] at hm
      exact hm.value_eq_iff.mpr (hsingleBits.mpr h)

/-- **Integers are rounded, and never refused.** Every integer of 64 bits is a default of both
kinds. The literal stands for the nearest number of 64 bits, or for the number of 32 bits nearest to
that, with the sign of the integer. It is the integer itself if and only if the integer has at most
53 bits, or 24 bits, apart from zeros at its end. -/
theorem integer_defaults_rounded (i : ℤ) (hi : isInt64 i = true) :
    ∃ (x : Double) (y : Single),
      (resolve .double (some (.integer i)) = .ok (.floating x) ∧
        binary64.IsNearest i.natAbs x.magnitude ∧ x.isNegative = decide (i < 0) ∧
        (∀ v, Evaluates .double (ofDefault .double (.floating x)).tokens v ↔ v = x) ∧
        (x.value = i ↔ HasBits 53 i)) ∧
      resolve .float (some (.integer i)) = .ok (.floating x) ∧
        binary32.IsNearest (binary64.value x.magnitude) y.magnitude ∧
        y.isNegative = decide (i < 0) ∧
        (∀ v, Evaluates .float (ofDefault .float (.floating x)).tokens v ↔ v = y) ∧
        (y.value = i ↔ HasBits 24 i) := by
  obtain ⟨hresolve, y, hy⟩ := float_of_integer hi
  exact ⟨.ofInt i, y, double_of_integer hi, hresolve, hy⟩

/-- With 25 bits an integer is kept as a number of 64 bits, and not as one of 32 bits. -/
theorem integer_defaults_rounded_odd :
    (∃ d, resolve .double (some (.integer (-16777217))) = .ok d ∧
      ∃ x : Double, Evaluates .double (ofDefault .double d).tokens x ∧ x.value = -16777217) ∧
    ∃ d, resolve .float (some (.integer (-16777217))) = .ok d ∧
      ∃ y : Single, Evaluates .float (ofDefault .float d).tokens y ∧ y.isNegative = true ∧
        y.value ≠ -16777217 := by
  obtain ⟨x, y, ⟨hdouble, -, -, hx, hbits⟩, hfloat, -, hnegative, hy, hbits'⟩ :=
    integer_defaults_rounded (-16777217) (by decide)
  refine ⟨⟨_, hdouble, x, (hx x).mpr rfl, hbits.mpr ⟨16777217, 0, by decide, by decide⟩⟩,
    _, hfloat, y, (hy y).mpr rfl, hnegative, fun h => ?_⟩
  obtain ⟨m, e, hm, heq⟩ := hbits'.mp h
  cases e with
  | zero => omega
  | succ e =>
    -- the integer is odd
    rw [Nat.pow_succ, ← Nat.mul_assoc] at heq
    generalize m * 2 ^ e = half at heq
    omega

/-- An integer with 54 bits is taken as a default, and its literal is that of another integer. -/
theorem integer_default_altered :
    ∃ d, resolve .double (some (.integer 9007199254740993)) = .ok d ∧
      (ofDefault .double d).tokens = [.literal "9007199254740992.0f64"] ∧
      ∃ y : Double, (∀ v, Evaluates .double (ofDefault .double d).tokens v ↔ v = y) ∧
        y.value = 9007199254740992 := by
  refine ⟨.floating ⟨0x4340000000000000⟩, by rfl, by rfl, ⟨0x4340000000000000⟩, fun v => ?_, ?_⟩
  · rw [evaluates_iff (.double _) (by decide), valueAs_double (by decide)]
  · have hnegative : (⟨0x4340000000000000⟩ : Double).isNegative = false := by decide
    have hsignificand :
        binary64.significand (⟨0x4340000000000000⟩ : Double).magnitude = 2 ^ 52 := by decide
    have hexponent : binary64.exponent (⟨0x4340000000000000⟩ : Double).magnitude = 1 := by decide
    rw [Double.value, hnegative, Format.value, hsignificand, hexponent, withSign]
    norm_num

end DefaultValue

end TypedPrefs
