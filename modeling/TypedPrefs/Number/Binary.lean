/-!
# Binary floating-point numbers

A number of a binary format is a sign and a magnitude. The magnitude is kept as its bit pattern: for
finite numbers the patterns are in the same order as the values, and the first pattern past them is
infinity. Rounding is to the nearest number, from two equally near ones to the one with the even
pattern, and is done on exact quotients.
-/

namespace TypedPrefs.Number

/-- A binary format: the bits of a significand, its leading one included, and those of an
exponent. -/
structure Format where
  precision : Nat
  exponentBits : Nat
  deriving Repr, DecidableEq

/-- The format of 32 bits. -/
def binary32 : Format := ⟨24, 8⟩

/-- The format of 64 bits. -/
def binary64 : Format := ⟨53, 11⟩

/-- A quotient rounded to the nearest whole number, a half to the even one. -/
def roundQuotient (num den : Nat) : Nat :=
  let q := num / den
  let twice := 2 * (num % den)
  if twice < den then q
  else if den < twice then q + 1
  else q + q % 2

/-- Whether `num / den` is at least `2 ^ e`. -/
def reachesPower (num den : Nat) (e : Int) : Bool :=
  den * Nat.pow 2 e.toNat ≤ num * Nat.pow 2 (-e).toNat

/-- The greatest `e` with `2 ^ e ≤ num / den`. The logarithms of the two parts tell it up to one. -/
def binaryExponent (num den : Nat) : Int :=
  let e : Int := (Nat.log2 num : Int) - (Nat.log2 den : Int)
  if reachesPower num den e then e else e - 1

namespace Format

/-- The weight of the last bit of the least numbers. -/
def leastExponent (f : Format) : Int := 3 - Nat.pow 2 (f.exponentBits - 1) - f.precision

/-- The pattern of the first number with a leading one. -/
def leadingOne (f : Format) : Nat := Nat.pow 2 (f.precision - 1)

/-- The pattern of infinity. Greater patterns are no numbers. -/
def infinity (f : Format) : Nat := (Nat.pow 2 f.exponentBits - 1) * f.leadingOne

/-- The pattern of the sign. -/
def signBit (f : Format) : Nat := Nat.pow 2 (f.precision - 1 + f.exponentBits)

/-- The significand of a pattern: a whole number that the exponent scales. -/
def significand (f : Format) (n : Nat) : Nat :=
  if n < f.leadingOne then n else f.leadingOne + n % f.leadingOne

/-- The power of two that scales the significand of a pattern. -/
def exponent (f : Format) (n : Nat) : Int :=
  if n < f.leadingOne then f.leastExponent else f.leastExponent + (n / f.leadingOne : Nat) - 1

/-- The pattern of the number nearest to `num / den`. Where the significand rounds up to a power of
two, the pattern carries into the next exponent. -/
def round (f : Format) (num den : Nat) : Nat :=
  if num = 0 then 0
  else
    let q := max f.leastExponent (binaryExponent num den - (f.precision - 1 : Nat))
    let m := roundQuotient (num * Nat.pow 2 (-q).toNat) (den * Nat.pow 2 q.toNat)
    min f.infinity ((q - f.leastExponent).toNat * f.leadingOne + m)

/-- A decimal exponent beyond which all numbers are infinite, and below whose opposite all are
zero. -/
def decimalReach : Int := 400

/-- The pattern of the number nearest to `digits * 10 ^ e`. -/
def roundDecimal (f : Format) (digits : Nat) (e : Int) : Nat :=
  let size : Int := (Nat.log2 digits : Int) / 4 + e
  if digits = 0 then 0
  else if decimalReach < size then f.infinity
  else if (Nat.log2 digits : Int) + e < -decimalReach then 0
  else f.round (digits * Nat.pow 10 e.toNat) (Nat.pow 10 (-e).toNat)

end Format

/-- A number of 64 bits. -/
structure Double where
  bits : UInt64
  deriving Repr, DecidableEq, Inhabited

/-- A number of 32 bits. -/
structure Single where
  bits : UInt32
  deriving Repr, DecidableEq, Inhabited

namespace Single

/-- The pattern without the sign. -/
def magnitude (x : Single) : Nat := x.bits.toNat % binary32.signBit

/-- Whether the sign is set. -/
def isNegative (x : Single) : Bool := binary32.signBit ≤ x.bits.toNat

/-- Whether this is a number and not infinite. -/
def isFinite (x : Single) : Bool := x.magnitude < binary32.infinity

/-- Whether this is no number. -/
def isNaN (x : Single) : Bool := binary32.infinity < x.magnitude

/-- The greatest finite pattern. -/
def greatest : Nat := binary32.infinity - 1

/-- The number with the given sign and magnitude. -/
def ofParts (negative : Bool) (magnitude : Nat) : Single :=
  ⟨(magnitude + if negative then binary32.signBit else 0).toUInt32⟩

end Single

namespace Double

/-- The pattern without the sign. -/
def magnitude (x : Double) : Nat := x.bits.toNat % binary64.signBit

/-- Whether the sign is set. -/
def isNegative (x : Double) : Bool := binary64.signBit ≤ x.bits.toNat

/-- Whether this is a number and not infinite. -/
def isFinite (x : Double) : Bool := x.magnitude < binary64.infinity

/-- Whether this is no number. -/
def isNaN (x : Double) : Bool := binary64.infinity < x.magnitude

/-- The number with the given sign and magnitude. -/
def ofParts (negative : Bool) (magnitude : Nat) : Double :=
  ⟨(magnitude + if negative then binary64.signBit else 0).toUInt64⟩

/-- Zero without a sign. -/
def zero : Double := ⟨0⟩

/-- The infinite number with the given sign. -/
def infinite (negative : Bool) : Double := ofParts negative binary64.infinity

/-- The pattern for no number, with the given sign. -/
def nan (negative : Bool) : Double :=
  ofParts negative (binary64.infinity + binary64.leadingOne / 2)

/-- The number nearest to an integer. -/
def ofInt (i : Int) : Double := ofParts (i < 0) (binary64.round i.natAbs 1)

/-- The number nearest to `digits * 10 ^ e` with the given sign. -/
def ofDecimal (negative : Bool) (digits : Nat) (e : Int) : Double :=
  ofParts negative (binary64.roundDecimal digits e)

/-- The pattern of the 32-bit number nearest to a finite magnitude. -/
def singleMagnitude (n : Nat) : Nat :=
  let q := binary64.exponent n
  binary32.round (binary64.significand n * Nat.pow 2 q.toNat) (Nat.pow 2 (-q).toNat)

/-- The 32-bit number nearest to this one. What is no number stays none. -/
def toSingle (x : Double) : Single :=
  if x.isFinite then .ofParts x.isNegative (singleMagnitude x.magnitude)
  else if x.isNaN then .ofParts x.isNegative (binary32.infinity + binary32.leadingOne / 2)
  else .ofParts x.isNegative binary32.infinity

end Double

end TypedPrefs.Number
