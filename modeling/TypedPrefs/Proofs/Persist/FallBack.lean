import TypedPrefs.Proofs.Code.StringLiterals
import TypedPrefs.Proofs.Number.Narrowing
import TypedPrefs.Proofs.Number.Numerals
import TypedPrefs.Proofs.Persist.Evaluation
import TypedPrefs.Proofs.Persist.Literals

/-!
# What getters fall back on

The value that a default has in a session is the one that its expression evaluates to. For this,
every literal has to be read back as what it was written for: digits as their number, a decimal as
the magnitude that it identifies, a text as itself.
-/

namespace TypedPrefs

open Code Code.Token Number

namespace DefaultValue

/-- A default that can be one of a kind. One of 32 bits that is finite stays so when it is
rounded. -/
inductive Fits : StoredKind → DefaultValue → Prop
  | boolean (b : Bool) : Fits .boolean (.boolean b)
  | integer {k : StoredKind} {i : ℤ} {v : k.Value} : k.integer? v = some i → Fits k (.integer i)
  | float {x : Double} :
      (x.isFinite = true → x.toSingle.isFinite = true) → Fits .float (.floating x)
  | double (x : Double) : Fits .double (.floating x)
  | string (s : String) : Fits .string (.string s)
  | strings (items : List String) : Fits .stringSet (.strings items)
  | noString : Fits .string .absent
  | noSet : Fits .stringSet .absent
  | void : Fits .void .absent

end DefaultValue

/-! ## The values of defaults -/

theorem Number.Double.isNaN_of_isFinite {x : Double} (h : x.isFinite = true) :
    x.isNaN = false := by
  have hlt := of_decide_eq_true h
  exact decide_eq_false (by omega)

theorem Number.Double.magnitude_of_infinite {x : Double} (hnan : x.isNaN = false)
    (hfinite : x.isFinite = false) : x.magnitude = binary64.infinity := by
  have hle := of_decide_eq_false hnan
  have hge := of_decide_eq_false hfinite
  omega

namespace DefaultCode

theorem signed_natAbs (i : ℤ) : signed (i < 0) i.natAbs = i := by
  rw [signed]
  split
  · next h =>
    have := of_decide_eq_true h
    omega
  · next h =>
    have := of_decide_eq_false (Bool.eq_false_iff.mpr h)
    omega

variable {isSingle : Bool} {x : Double}

theorem ofFloating_of_isNaN (h : x.isNaN = true) : ofFloating isSingle x = .notANumber isSingle :=
  if_pos h

theorem ofFloating_of_infinite (hnan : x.isNaN = false) (hfinite : x.isFinite = false) :
    ofFloating isSingle x = .infinite isSingle x.isNegative := by
  simp [ofFloating, hnan, hfinite]

theorem ofFloating_of_finite (hfinite : x.isFinite = true) :
    ofFloating isSingle x =
      .decimal isSingle x.isNegative
        (if isSingle then binary32.precise x.toSingle.magnitude
          else binary64.precise x.magnitude) := by
  simp [ofFloating, Double.isNaN_of_isFinite hfinite, hfinite]

end DefaultCode

namespace DefaultValue

open DefaultCode

theorem valueAs_integer {k : StoredKind} {i : ℤ} {v : k.Value} (h : k.integer? v = some i) :
    (DefaultValue.integer i).valueAs k = v := by
  have hmade := StoredKind.ofInt?_eq_some_iff.mpr h
  cases k with
  | byte | char | short | int | long =>
    simp [valueAs, ofDefault, value?, signed_natAbs, StoredKind.isIntegral, hmade]
  | _ => cases h

/-- A default of 32 bits is the number nearest to the one of 64 bits. -/
theorem valueAs_float {x : Double} (hnan : x.isNaN = false)
    (h : x.isFinite = true → x.toSingle.isFinite = true) :
    (DefaultValue.floating x).valueAs .float = x.toSingle := by
  show ((DefaultCode.ofFloating true x).value? .float).getD _ = _
  cases hfinite : x.isFinite with
  | false =>
    rw [ofFloating_of_infinite hnan hfinite, Double.toSingle, if_neg (by simp [hfinite]),
      if_neg (by simp [hnan])]
    rfl
  | true =>
    have hlt : x.toSingle.magnitude < binary32.infinity := of_decide_eq_true (h hfinite)
    obtain ⟨d, hread, hround⟩ := Format.isOrdinary_binary32.roundDecimal_precise hlt
    have hparts := Single.ofParts_parts x.toSingle
    rw [Double.isNegative_toSingle hfinite] at hparts
    rw [ofFloating_of_finite hfinite, if_pos rfl, value?, hread, Option.map_some, hround, hparts]
    rfl

theorem valueAs_double {x : Double} (hnan : x.isNaN = false) :
    (DefaultValue.floating x).valueAs .double = x := by
  show ((DefaultCode.ofFloating false x).value? .double).getD _ = _
  cases hfinite : x.isFinite with
  | false =>
    have hparts := Double.ofParts_parts x
    rw [Double.magnitude_of_infinite hnan hfinite] at hparts
    rw [ofFloating_of_infinite hnan hfinite]
    exact hparts
  | true =>
    have hlt : x.magnitude < binary64.infinity := of_decide_eq_true hfinite
    obtain ⟨d, hread, hround⟩ := Format.isOrdinary_binary64.roundDecimal_precise hlt
    rw [ofFloating_of_finite hfinite, if_neg (by simp), value?, hread, Option.map_some,
      Double.ofDecimal, hround, Double.ofParts_parts]
    rfl

end DefaultValue

/-! ## The expressions of defaults -/

theorem isDecimalLiteral_precise {f : Format} (hf : f.IsOrdinary) {n : ℕ} (hn : n < f.infinity)
    (suffix : String) : IsDecimalLiteral f suffix (f.precise n ++ suffix) n := by
  obtain ⟨d, hread, hvalue⟩ := f.exists_ofChars?_precise n
  have hnearest := Format.isNearest_toDecimal hf.precision n
  rw [← hvalue] at hnearest
  exact ⟨_, d, n, hread, hnearest, (min_eq_right hn.le).symm, rfl⟩

theorem areTextLiterals_literalList (items : List String) :
    AreTextLiterals (DefaultCode.literalList items) items := by
  induction items with
  | nil => exact .nil
  | cons s rest ih =>
    cases rest with
    | nil => exact .single (Literal.string?_literal s)
    | cons s' rest =>
      refine .cons (Literal.string?_literal s) ih ?_
      cases rest <;> exact List.cons_ne_nil _ _

namespace DefaultCode

variable {f : Format} {x : Double} (isSingle : Bool)

theorem isFloatExpression_of_isNaN (h : x.isNaN = true) :
    IsFloatExpression f (floatType isSingle) (ofFloating isSingle x).tokens false
      (f.infinity + f.leadingOne / 2) := by
  rw [ofFloating_of_isNaN h]
  cases isSingle <;> exact .notANumber

theorem isFloatExpression_of_infinite (hnan : x.isNaN = false) (hfinite : x.isFinite = false) :
    IsFloatExpression f (floatType isSingle) (ofFloating isSingle x).tokens x.isNegative
      f.infinity := by
  rw [ofFloating_of_infinite hnan hfinite]
  cases isSingle <;> exact .infinite x.isNegative

theorem isFloatExpression_of_finite (hf : f.IsOrdinary) (hfinite : x.isFinite = true) {n : ℕ}
    (hn : n < f.infinity)
    (htext : (if isSingle then binary32.precise x.toSingle.magnitude
      else binary64.precise x.magnitude) = f.precise n) :
    IsFloatExpression f (floatType isSingle) (ofFloating isSingle x).tokens x.isNegative n := by
  rw [ofFloating_of_finite hfinite, htext]
  exact .decimal x.isNegative (isDecimalLiteral_precise hf hn _)

end DefaultCode

namespace DefaultValue

open DefaultCode

theorem evaluates_integer {k : StoredKind} {i : ℤ} {v : k.Value} (h : k.integer? v = some i) :
    Evaluates k (ofDefault k (.integer i)).tokens v := by
  have htype : k.codeType = [.word k.integerSuffix] := by
    cases k with
    | byte | char | short | int | long => rfl
    | _ => cases h
  refine .integer htype ⟨_, parseNatural?_digitChars i.natAbs, rfl⟩ ?_
  rw [signed_natAbs]
  exact h

theorem evaluates_float {x : Double} (h : x.isFinite = true → x.toSingle.isFinite = true) :
    Evaluates .float (ofDefault .float (.floating x)).tokens
      ((DefaultValue.floating x).valueAs .float) := by
  show Evaluates .float (DefaultCode.ofFloating true x).tokens _
  cases hnan : x.isNaN with
  | true =>
    have hvalue : (DefaultValue.floating x).valueAs .float = Single.nan := by
      show ((DefaultCode.ofFloating true x).value? .float).getD _ = _
      rw [ofFloating_of_isNaN hnan]
      rfl
    rw [hvalue]
    exact .float (isFloatExpression_of_isNaN true hnan)
  | false =>
    rw [valueAs_float hnan h]
    cases hfinite : x.isFinite with
    | false =>
      rw [Double.toSingle, if_neg (by simp [hfinite]), if_neg (by simp [hnan])]
      exact .float (isFloatExpression_of_infinite true hnan hfinite)
    | true =>
      have hlt : x.toSingle.magnitude < binary32.infinity := of_decide_eq_true (h hfinite)
      have hparts := Single.ofParts_parts x.toSingle
      rw [Double.isNegative_toSingle hfinite] at hparts
      rw [← hparts]
      exact .float (isFloatExpression_of_finite true Format.isOrdinary_binary32 hfinite hlt rfl)

theorem evaluates_double (x : Double) :
    Evaluates .double (ofDefault .double (.floating x)).tokens
      ((DefaultValue.floating x).valueAs .double) := by
  show Evaluates .double (DefaultCode.ofFloating false x).tokens _
  cases hnan : x.isNaN with
  | true =>
    have hvalue : (DefaultValue.floating x).valueAs .double = Double.nan false := by
      show ((DefaultCode.ofFloating false x).value? .double).getD _ = _
      rw [ofFloating_of_isNaN hnan]
      rfl
    rw [hvalue]
    exact .double (isFloatExpression_of_isNaN false hnan)
  | false =>
    have hmagnitude : IsFloatExpression binary64 "f64" (DefaultCode.ofFloating false x).tokens
        x.isNegative x.magnitude := by
      cases hfinite : x.isFinite with
      | false =>
        rw [Double.magnitude_of_infinite hnan hfinite]
        exact isFloatExpression_of_infinite false hnan hfinite
      | true =>
        have hlt : x.magnitude < binary64.infinity := of_decide_eq_true hfinite
        exact isFloatExpression_of_finite false Format.isOrdinary_binary64 hfinite hlt rfl
    have hx := Evaluates.double hmagnitude
    rw [Double.ofParts_parts] at hx
    rw [valueAs_double hnan]
    exact hx

/-- **The value of a default is what its expression evaluates to.** -/
theorem evaluates {k : StoredKind} {d : DefaultValue} (h : d.Fits k) (hk : k ≠ .void) :
    Evaluates k (ofDefault k d).tokens (d.valueAs k) := by
  cases h with
  | boolean b => exact .boolean b
  | integer hi =>
    rw [valueAs_integer hi]
    exact evaluates_integer hi
  | float hfinite => exact evaluates_float hfinite
  | double x => exact evaluates_double x
  | string s => exact .string (.some (Literal.string?_literal s))
  | strings items =>
    cases items with
    | nil => exact .stringSet .empty
    | cons s rest =>
      exact .stringSet (.collected (areTextLiterals_literalList _)
        fun x => StringSet.mem_toStrings_ofStrings)
  | noString => exact .string .none
  | noSet => exact .stringSet .none
  | void => exact absurd rfl hk

theorem evaluates_iff {k : StoredKind} {d : DefaultValue} (h : d.Fits k) (hk : k ≠ .void)
    {v : k.Value} : Evaluates k (ofDefault k d).tokens v ↔ v = d.valueAs k := by
  constructor
  · intro hv
    exact hv.unique (evaluates h hk)
  · rintro rfl
    exact evaluates h hk

end DefaultValue

end TypedPrefs
