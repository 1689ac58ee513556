import TypedPrefs.Document.Numeral
import TypedPrefs.Proofs.Persist.FallBack

/-!
# Defaults of floating-point kinds

A number of 64 bits is a default of 32 bits if it is at most the greatest number of 32 bits. What is
greater, but nearer to that number than to the next power of two, is refused although it is rounded
to a number. An integer is always taken, and rounded where the kind has too few bits for it.
-/

namespace TypedPrefs

open Number

namespace DefaultValue

/-! ## The bound of 32 bits -/

/-- Greater than all numbers of 32 bits, but rounded to the greatest of them. -/
def RoundsDown (x : Double) : Prop :=
  binary32.value Single.greatest < |x.value| ∧ |x.value| < 2 ^ (128 : ℤ) - 2 ^ (103 : ℤ)

theorem greatestSingle_lt_iff {x : Double} :
    greatestSingle < x.magnitude ↔ binary32.value Single.greatest < |x.value| := by
  rw [Double.abs_value, ← value_greatestSingle, binary64.strictMono_value.lt_iff_lt]

theorem resolve_float_of_le {x : Double} (h : |x.value| ≤ binary32.value Single.greatest) :
    resolve .float (some (.float x)) = .ok (.floating x) := by
  have hle : ¬ greatestSingle < x.magnitude := by
    rw [greatestSingle_lt_iff]
    exact h.not_gt
  show ofFloating .float x = _
  rw [ofFloating, if_neg (by simp [hle])]

theorem resolve_float_of_lt {x : Double} (hfinite : x.isFinite = true)
    (h : binary32.value Single.greatest < |x.value|) :
    resolve .float (some (.float x)) = .error (.floatOutOfRange x) := by
  have hlt := greatestSingle_lt_iff.mpr h
  show ofFloating .float x = _
  rw [ofFloating, if_pos (by simp [hfinite, hlt])]

/-- A decimal that is at most the greatest number of 32 bits does not pass it when it is read as a
number of 64 bits. -/
theorem resolve_decimal_of_le (negative : Bool) {d : Decimal}
    (h : d.value ≤ binary32.value Single.greatest) :
    resolve .float (some (.float (.ofDecimal negative d.digits d.exponent))) =
      .ok (.floating (.ofDecimal negative d.digits d.exponent)) := by
  obtain ⟨n, hn, hround⟩ := Format.isOrdinary_binary64.roundDecimal_spec d.digits d.exponent
  have hle : n ≤ greatestSingle := hn.le_of_le (h.trans value_greatestSingle.ge)
  have hmin : min binary64.infinity n ≤ greatestSingle := (min_le_right _ _).trans hle
  have hsign : greatestSingle < binary64.signBit := by decide
  apply resolve_float_of_le
  rw [Double.abs_value, Double.ofDecimal, hround,
    Double.magnitude_ofParts _ (hmin.trans_lt hsign), ← value_greatestSingle]
  exact binary64.strictMono_value.monotone hmin

/-- The text of a number of 32 bits is at most the middle to the next number, which is not beyond
the greatest one. -/
theorem exists_precise_resolve (negative : Bool) {n : ℕ} (hn : n < Single.greatest) :
    ∃ d, Decimal.ofChars? (binary32.precise n).toList = some d ∧ binary32.IsNearest d.value n ∧
      resolve .float (some (.float (.ofDecimal negative d.digits d.exponent))) =
        .ok (.floating (.ofDecimal negative d.digits d.exponent)) := by
  obtain ⟨d, hread, hvalue⟩ := binary32.exists_ofChars?_precise n
  have hnearest := Format.isNearest_toDecimal (f := binary32) (by decide) n
  rw [← hvalue] at hnearest
  obtain ⟨-, hmiddle, -⟩ := Format.isNearest_iff.mp hnearest
  have hstep := binary32.strictMono_value (Nat.lt_add_one n)
  have hnext := binary32.strictMono_value.monotone (Nat.succ_le_of_lt hn)
  exact ⟨d, hread, hnearest, resolve_decimal_of_le negative (by linarith)⟩

/-- Numbers are refused exactly if they are rounded to infinity, except for those that are rounded
down. -/
theorem refused_iff_infinite_iff {x : Double} (hfinite : x.isFinite = true) :
    (resolve .float (some (.float x)) = .error (.floatOutOfRange x) ↔
      x.toSingle.isFinite = false) ↔ ¬ RoundsDown x := by
  have hbelow : binary32.value Single.greatest < 2 ^ (128 : ℤ) - 2 ^ (103 : ℤ) := by
    rw [value_greatest]
    norm_num
  rw [Double.isFinite_toSingle_iff hfinite, RoundsDown]
  rcases le_or_gt |x.value| (binary32.value Single.greatest) with hle | hlt
  · have hfar : ¬ 2 ^ (128 : ℤ) - 2 ^ (103 : ℤ) ≤ |x.value| := (hle.trans_lt hbelow).not_ge
    simp only [resolve_float_of_le hle, reduceCtorEq, hfar, hle.not_gt, false_and,
      not_false_eq_true]
  · simp only [resolve_float_of_lt hfinite hlt, hlt, true_and, true_iff, not_lt]

/-- **Defaults of 32 bits are refused by value.** A finite number is rounded to the nearest one of
32 bits, and it is refused if it is greater than all of them. This is when rounding gives infinity,
except for the numbers that are rounded down. In particular decimals up to the greatest number are
taken, and the text of every other number of 32 bits. -/
theorem float_defaults_refused (x : Double) (hfinite : x.isFinite = true) (negative : Bool) :
    (∃ n, binary32.IsNearest |x.value| n ∧
      x.toSingle = .ofParts x.isNegative (min binary32.infinity n)) ∧
    (resolve .float (some (.float x)) = .ok (.floating x) ∨
      resolve .float (some (.float x)) = .error (.floatOutOfRange x)) ∧
    ((resolve .float (some (.float x)) = .error (.floatOutOfRange x) ↔
      x.toSingle.isFinite = false) ↔ ¬ RoundsDown x) ∧
    (∀ d : Decimal, d.value ≤ binary32.value Single.greatest →
      resolve .float (some (.float (.ofDecimal negative d.digits d.exponent))) =
        .ok (.floating (.ofDecimal negative d.digits d.exponent))) ∧
    ∀ n, n < Single.greatest →
      ∃ d, Decimal.ofChars? (binary32.precise n).toList = some d ∧ binary32.IsNearest d.value n ∧
        resolve .float (some (.float (.ofDecimal negative d.digits d.exponent))) =
          .ok (.floating (.ofDecimal negative d.digits d.exponent)) := by
  refine ⟨?_, ?_, refused_iff_infinite_iff hfinite, fun d => resolve_decimal_of_le negative,
    fun n => exists_precise_resolve negative⟩
  · obtain ⟨n, hn, hround⟩ := Double.singleMagnitude_spec x.magnitude
    rw [← Double.abs_value] at hn
    exact ⟨n, hn, by rw [Double.toSingle_of_finite hfinite, hround]⟩
  · rcases le_or_gt |x.value| (binary32.value Single.greatest) with hle | hlt
    · exact .inl (resolve_float_of_le hle)
    · exact .inr (resolve_float_of_lt hfinite hlt)

/-- Beyond the middle to the next power of two a number is refused, and rounding gives infinity. A
small decimal is taken, and so is the text of the least number. -/
theorem float_defaults_refused_ends :
    let x : Double := .ofDecimal false 35 37
    x.isFinite = true ∧ x.toSingle.isFinite = false ∧
      resolve .float (some (.float x)) = .error (.floatOutOfRange x) ∧
      resolve .float (some (.float (.ofDecimal true 1 (-45)))) =
        .ok (.floating (.ofDecimal true 1 (-45))) ∧
      ∃ d, Decimal.ofChars? (binary32.precise 1).toList = some d ∧ binary32.IsNearest d.value 1 ∧
        resolve .float (some (.float (.ofDecimal true d.digits d.exponent))) =
          .ok (.floating (.ofDecimal true d.digits d.exponent)) := by
  intro x
  have hfinite : x.isFinite = true := by decide +kernel
  have hinfinite : x.toSingle.isFinite = false := by decide +kernel
  have hbeyond : ¬ RoundsDown x := by
    intro h
    exact h.2.not_ge ((Double.isFinite_toSingle_iff hfinite).mp hinfinite)
  have hsmall : (⟨1, -45⟩ : Decimal).value ≤ binary32.value Single.greatest := by
    rw [value_greatest, Decimal.value]
    norm_num
  obtain ⟨-, -, hiff, hdecimal, htext⟩ := float_defaults_refused x hfinite true
  exact ⟨hfinite, hinfinite, (hiff.mpr hbeyond).mpr hinfinite, hdecimal ⟨1, -45⟩ hsmall,
    htext 1 (by decide)⟩

/-- The text of the greatest number of 32 bits is refused. Read as a number of 64 bits it is greater
than that number, which it is rounded to. -/
theorem greatest_float_refused :
    ∃ x : Double, Document.Numeral.value? "3.4028235e38".toList = some (.float x) ∧
      binary32.precise Single.greatest = "3.4028235e38" ∧
      x.isFinite = true ∧ x.toSingle = .ofParts false Single.greatest ∧
      x.toSingle.isFinite = true ∧
      resolve .float (some (.float x)) = .error (.floatOutOfRange x) :=
  ⟨⟨0x47efffffe54daff8⟩, by rfl, by decide +kernel, by decide, by decide +kernel,
    by decide +kernel, by rfl⟩

end DefaultValue

end TypedPrefs
