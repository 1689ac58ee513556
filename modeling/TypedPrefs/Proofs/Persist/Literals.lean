import TypedPrefs.Persist.DefaultCode
import TypedPrefs.Proofs.Number.Literals
import TypedPrefs.Proofs.Number.Narrowing
import TypedPrefs.Proofs.Result

/-!
# Defaults as literals

A number that is a default becomes a literal of its type. One of 32 bits is rounded from 64 bits
first; defaults that would round to infinity are refused, so what is written is always a number.
-/

namespace TypedPrefs

open Number

/-! ## Literals -/

/-- Digits with the suffix of an integer type. -/
def IsIntegerLiteral (text : String) : Prop :=
  ∃ digits, ∃ suffix ∈ ["i8", "u16", "i16", "i32", "i64"],
    IsDigits digits ∧ text = String.ofList digits ++ suffix

/-- A decimal with the suffix of a floating-point type. -/
def IsFloatLiteral (text : String) : Prop :=
  ∃ decimal, ∃ suffix ∈ ["f32", "f64"],
    IsDecimalText decimal.toList ∧ text = decimal ++ suffix

/-- If a default is written as a number behind its sign, that number is a literal. -/
def DefaultCode.HasLiteral : DefaultCode → Prop
  | .integer _ magnitude suffix =>
    IsIntegerLiteral (String.ofList (digitChars magnitude) ++ suffix)
  | .decimal isSingle _ magnitude => IsFloatLiteral (magnitude ++ floatType isSingle)
  | _ => True

theorem DefaultCode.hasLiteral_ofFloating (isSingle : Bool) (x : Double) :
    (ofFloating isSingle x).HasLiteral := by
  have hsuffix : floatType isSingle ∈ ["f32", "f64"] := by cases isSingle <;> decide
  rw [ofFloating]
  split
  · trivial
  · split
    · trivial
    · refine ⟨_, _, hsuffix, ?_, rfl⟩
      split <;> exact isDecimalText_precise _ _

theorem DefaultCode.hasLiteral_ofDefault (kind : StoredKind) (default : DefaultValue) :
    (ofDefault kind default).HasLiteral := by
  cases default with
  | integer i =>
    exact ⟨_, _, by cases kind <;> decide, isDigits_digitChars i.natAbs, rfl⟩
  | floating x => exact hasLiteral_ofFloating _ x
  | _ => trivial

/-! ## Rounding -/

/-- The greatest number of 32 bits is one of 64 bits. -/
theorem value_greatestSingle :
    binary64.value DefaultValue.greatestSingle = binary32.value Single.greatest := by
  have hsignificand : binary64.significand DefaultValue.greatestSingle = (2 ^ 24 - 1) * 2 ^ 29 := by
    decide
  have hexponent : binary64.exponent DefaultValue.greatestSingle = 75 := by decide
  rw [value_greatest, Format.value, hsignificand, hexponent]
  norm_num

theorem singleMagnitude_lt_infinity {n : Nat} (h : n ≤ DefaultValue.greatestSingle) :
    Double.singleMagnitude n < binary32.infinity := by
  obtain ⟨m, hm, hround⟩ := Double.singleMagnitude_spec n
  have hvalue : binary64.value n ≤ binary32.value Single.greatest :=
    (binary64.strictMono_value.monotone h).trans value_greatestSingle.le
  rw [hround]
  exact (min_le_right _ _).trans_lt ((hm.le_of_le hvalue).trans_lt (by decide))

/-- A number that is at most the greatest one of 32 bits stays finite when it is rounded. -/
theorem isFinite_toSingle {x : Double} (hfinite : x.isFinite = true)
    (h : x.magnitude ≤ DefaultValue.greatestSingle) : x.toSingle.isFinite = true := by
  rw [Single.isFinite, Double.magnitude_toSingle hfinite, decide_eq_true_eq]
  exact singleMagnitude_lt_infinity h

theorem le_greatestSingle_of_ofFloating {x y : Double}
    (h : DefaultValue.ofFloating .float x = .ok (.floating y)) (hfinite : y.isFinite = true) :
    y.magnitude ≤ DefaultValue.greatestSingle := by
  rw [DefaultValue.ofFloating] at h
  split at h
  · cases h
  · next hrange =>
    cases h
    simpa [hfinite] using hrange

/-- A default of 32 bits is no number, infinite, or stays finite when it is rounded. -/
theorem isFinite_of_resolve {value : Option Document.Value} {x : Double}
    (h : DefaultValue.resolve .float value = .ok (.floating x)) (hfinite : x.isFinite = true) :
    x.toSingle.isFinite = true := by
  refine isFinite_toSingle hfinite ?_
  cases value with
  | none =>
    cases h
    decide
  | some value =>
    cases value with
    | integer i => exact le_greatestSingle_of_ofFloating h hfinite
    | float y => exact le_greatestSingle_of_ofFloating h hfinite
    | _ => cases h

end TypedPrefs
