import TypedPrefs.Number.Numeral
import TypedPrefs.Persist.DefaultCode
import TypedPrefs.Store.Value

/-!
# The values of defaults

What the expression for a default in generated code evaluates to, as a value of the kind that is
stored. An expression of another type, or a literal that does not fit its type, has no value.
-/

namespace TypedPrefs

open Number

/-- The pattern for no number that the constants of the generated language have. -/
def Number.Single.nan : Single := ⟨0x7fc00000⟩

namespace StoredKind

/-- The value of a kind if nothing else is known. -/
def blank : (k : StoredKind) → k.Value
  | .boolean => false
  | .byte => (0 : Int8)
  | .char => (0 : UInt16)
  | .short => (0 : Int16)
  | .int => (0 : Int32)
  | .long => (0 : Int64)
  | .float => (⟨0⟩ : Single)
  | .double => Double.zero
  | .string => none
  | .stringSet => none
  | .void => ()

/-- An integer as a value of a kind of integers. -/
def ofInt? (k : StoredKind) (i : Int) : Option k.Value :=
  match k.range? with
  | none => none
  | some (low, high) =>
    if i < low || high < i then none
    else
      match k with
      | .byte => some (Int8.ofInt i)
      | .char => some (UInt16.ofNat i.toNat)
      | .short => some (Int16.ofInt i)
      | .int => some (Int32.ofInt i)
      | .long => some (Int64.ofInt i)
      | _ => none

end StoredKind

namespace DefaultCode

/-- An integer with a sign. -/
def signed (negative : Bool) (magnitude : Nat) : Int :=
  if negative then -(magnitude : Int) else magnitude

/-- The value of the expression as one of a kind. -/
def value? : (k : StoredKind) → DefaultCode → Option k.Value
  | .boolean, .boolean b => some b
  | .float, .notANumber true => some Single.nan
  | .float, .infinite true negative => some (Single.ofParts negative binary32.infinity)
  | .float, .decimal true negative magnitude =>
    (Decimal.ofChars? magnitude.toList).map fun d =>
      Single.ofParts negative (binary32.roundDecimal d.digits d.exponent)
  | .double, .notANumber false => some (Double.nan false)
  | .double, .infinite false negative => some (Double.infinite negative)
  | .double, .decimal false negative magnitude =>
    (Decimal.ofChars? magnitude.toList).map fun d =>
      Double.ofDecimal negative d.digits d.exponent
  | .string, .string s => some (some s)
  | .string, .absent => some none
  | .stringSet, .strings items => some (some (StringSet.ofStrings items))
  | .stringSet, .absent => some none
  | k, .integer negative magnitude suffix =>
    if k.isIntegral && suffix = k.integerSuffix then k.ofInt? (signed negative magnitude) else none
  | _, _ => none

end DefaultCode

/-- The value that a default has in generated code. -/
def DefaultValue.valueAs (k : StoredKind) (d : DefaultValue) : k.Value :=
  ((DefaultCode.ofDefault k d).value? k).getD k.blank

end TypedPrefs
