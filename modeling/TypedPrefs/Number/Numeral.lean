import TypedPrefs.Number.Integer
import TypedPrefs.Number.Shortest

/-!
# Reading decimals

The decimal that a numeral spells: digits, perhaps a point with digits behind it, perhaps an
exponent.
-/

namespace TypedPrefs.Number

/-- The part before the first mark, and the part behind it if there is one. -/
def splitAtMark (mark : Char) (s : List Char) : List Char × Option (List Char) :=
  (s.takeWhile (· != mark),
    match s.dropWhile (· != mark) with
    | [] => none
    | _ :: rest => some rest)

/-- The decimal that a numeral spells. -/
def Decimal.ofChars? (s : List Char) : Option Decimal := do
  let (mantissa, tail) := splitAtMark 'e' s
  let (whole, fraction) := splitAtMark '.' mantissa
  let places := fraction.getD []
  let digits ← parseNatural? (whole ++ places)
  let exponent ← match tail with
    | none => some 0
    | some e => parseInteger? e
  return ⟨digits, exponent - places.length⟩

end TypedPrefs.Number
