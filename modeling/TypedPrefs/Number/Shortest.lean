import TypedPrefs.Number.Binary

/-!
# The fewest digits that identify a number

The decimals that round to a binary number fill an interval around it. The shortest of them that is
nearest to the number identifies it; of two equally near ones the greater is taken.
-/

namespace TypedPrefs.Number

/-- A decimal number `digits * 10 ^ exponent`. -/
structure Decimal where
  digits : Nat
  exponent : Int
  deriving Repr, DecidableEq

/-- The order of `a * 10 ^ i` and `n * 2 ^ j`. -/
def compareScaled (a : Nat) (i : Int) (n : Nat) (j : Int) : Ordering :=
  compare (a * Nat.pow 10 i.toNat * Nat.pow 2 (-j).toNat)
    (n * Nat.pow 2 j.toNat * Nat.pow 10 (-i).toNat)

namespace Format

/-- Whether a decimal rounds to the finite nonzero pattern `n`. The interval around the number
reaches half the way to either neighbour, and contains its ends if the significand is even. At a
leading one without further bits the lower neighbour is only half as far away. -/
def readsBack (f : Format) (n : Nat) (d : Decimal) : Bool :=
  let m := f.significand n
  let q := f.exponent n - 2
  let narrow := m = f.leadingOne && f.leastExponent < f.exponent n
  let low := if narrow then 4 * m - 1 else 4 * m - 2
  let high := 4 * m + 2
  let fromLow := compareScaled d.digits d.exponent low q
  let fromHigh := compareScaled d.digits d.exponent high q
  let closed := m % 2 = 0
  (fromLow = .gt || (closed && fromLow = .eq)) && (fromHigh = .lt || (closed && fromHigh = .eq))

/-- The whole part of the number `n` in units of `10 ^ e`. -/
def floorDecimal (f : Format) (n : Nat) (e : Int) : Nat :=
  let q := f.exponent n
  (f.significand n * Nat.pow 2 q.toNat * Nat.pow 10 (-e).toNat) /
    (Nat.pow 2 (-q).toNat * Nat.pow 10 e.toNat)

/-- Whether the number `n` is less than `10 ^ k`. -/
def belowPower (f : Format) (n : Nat) (k : Int) : Bool :=
  compareScaled 1 k (f.significand n) (f.exponent n) = .gt

/-- The least `k` from `k` on, in at most `fuel` steps, with `n < 10 ^ k`. -/
def scaleFrom (f : Format) (n : Nat) : Nat → Int → Int
  | 0, k => k
  | fuel + 1, k => if f.belowPower n k then k else f.scaleFrom n fuel (k + 1)

/-- The least `k` with `n < 10 ^ k`. The binary logarithm, times three tenths, comes near from
below. -/
def scale (f : Format) (n : Nat) : Int :=
  let e : Int := (Nat.log2 (f.significand n) : Int) + f.exponent n
  f.scaleFrom n 8 (e * 30102 / 100000 - 1)

/-- Of the two decimals next to the number `n` in units of `10 ^ e` the one that identifies it. -/
def nearestAt? (f : Format) (n : Nat) (e : Int) : Option Decimal :=
  let below : Decimal := ⟨f.floorDecimal n e, e⟩
  let above : Decimal := ⟨below.digits + 1, e⟩
  match below.digits ≠ 0 && f.readsBack n below, f.readsBack n above with
  | true, true =>
    let middle := compareScaled (below.digits + above.digits) e (f.significand n) (f.exponent n + 1)
    some (if middle = .gt then below else above)
  | true, false => some below
  | false, true => some above
  | false, false => none

/-- The first answer with one more digit each time, in at most `fuel` steps. -/
def shortestFrom (f : Format) (n : Nat) : Nat → Int → Option Decimal
  | 0, _ => none
  | fuel + 1, e => (f.nearestAt? n e).or (f.shortestFrom n fuel (e - 1))

/-- Seventeen digits identify every number of up to 53 bits. -/
def digitLimit : Nat := 17

/-- The exact value of a pattern as a decimal. -/
def exactDecimal (f : Format) (n : Nat) : Decimal :=
  let q := f.exponent n
  ⟨f.significand n * Nat.pow 2 q.toNat * Nat.pow 5 (-q).toNat, -(-q).toNat⟩

/-- The shortest decimal that identifies the finite nonzero number `n`. -/
def shortest (f : Format) (n : Nat) : Decimal :=
  (f.shortestFrom n digitLimit (f.scale n - 1)).getD (f.exactDecimal n)

end Format

/-- Moves zeros at the end of the digits into the exponent, at most `fuel` of them. -/
def Decimal.stripZeros : Nat → Decimal → Decimal
  | 0, d => d
  | fuel + 1, d =>
    if d.digits ≠ 0 && d.digits % 10 = 0 then stripZeros fuel ⟨d.digits / 10, d.exponent + 1⟩ else d

end TypedPrefs.Number
