import TypedPrefs.Number.Shortest

/-!
# Numbers as text

A finite number is written with the fewest digits that identify it, either positionally or with an
exponent. Documentation and code write very large and very small numbers with an exponent; messages
never do.
-/

namespace TypedPrefs.Number

/-- The decimal digits of a natural number. -/
def digitChars (n : Nat) : List Char := Nat.toDigits 10 n

namespace Decimal

/-- The digits with a point at the place that the exponent gives, without a point if there is no
fraction. -/
def positionalChars (d : Decimal) : List Char :=
  let digits := digitChars d.digits
  if 0 ≤ d.exponent then digits ++ List.replicate d.exponent.toNat '0'
  else
    let places := (-d.exponent).toNat
    if places < digits.length then
      digits.take (digits.length - places) ++ '.' :: digits.drop (digits.length - places)
    else
      '0' :: '.' :: (List.replicate (places - digits.length) '0' ++ digits)

/-- The digits with a point behind the first one, and the exponent that puts it there. -/
def exponentialChars (d : Decimal) : List Char :=
  let digits := digitChars d.digits
  let e := d.exponent + (digits.length - 1 : Nat)
  let fraction := digits.drop 1
  digits.take 1 ++ (if fraction.isEmpty then [] else '.' :: fraction) ++ 'e' :: (toString e).toList

/-- The exponent of the first digit. -/
def leadingExponent (d : Decimal) : Int := d.exponent + ((digitChars d.digits).length - 1 : Nat)

end Decimal

/-- Zero and the finite patterns as decimals. -/
def Format.toDecimal (f : Format) (n : Nat) : Decimal :=
  if n = 0 then ⟨0, 0⟩ else (f.shortest n).stripZeros Format.digitLimit

/-- A finite magnitude with a fraction in any case: with an exponent from `1e16` on and below
`1e-4`. -/
def Format.precise (f : Format) (n : Nat) : String :=
  let d := f.toDecimal n
  let e := d.leadingExponent
  String.ofList <|
    if n ≠ 0 && (16 ≤ e || e < -4) then d.exponentialChars
    else if 0 ≤ d.exponent then d.positionalChars ++ ['.', '0']
    else d.positionalChars

/-- A finite magnitude without an exponent. -/
def Format.positional (f : Format) (n : Nat) : String :=
  String.ofList (f.toDecimal n).positionalChars

/-- The text of a number from that of its finite magnitude. -/
def Double.textWith (finite : Nat → String) (x : Double) : String :=
  if x.isNaN then "NaN"
  else
    (if x.isNegative then "-" else "") ++ (if x.isFinite then finite x.magnitude else "inf")

/-- A number as documentation writes it. -/
def Double.precise (x : Double) : String := x.textWith binary64.precise

/-- A number as messages write it. -/
def Double.positional (x : Double) : String := x.textWith binary64.positional

/-- A number as a value of a declaration is written: a fraction in any case, never an exponent, and
no sign where there is no number. -/
def Double.asValue (x : Double) : String :=
  if x.isNaN then "nan"
  else if !x.isFinite then if x.isNegative then "-inf" else "inf"
  else
    let text := x.positional
    if text.toList.contains '.' then text else text ++ ".0"

end TypedPrefs.Number
