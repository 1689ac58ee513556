/-!
# Decimal integers
-/

namespace TypedPrefs.Number

/-- The number that decimal digits spell; at least one digit is needed. -/
def parseNatural? (s : List Char) : Option Nat :=
  if s.isEmpty || !s.all Char.isDigit then none
  else some (s.foldl (fun n c => 10 * n + (c.toNat - 48)) 0)

/-- The integer that decimal digits with an optional sign spell. -/
def parseInteger? : List Char → Option Int
  | '-' :: rest => (parseNatural? rest).map fun n => -(n : Int)
  | '+' :: rest => (parseNatural? rest).map Int.ofNat
  | s => (parseNatural? s).map Int.ofNat

/-- An integer that decimal digits with an optional sign spell, if it lies between two others. -/
def parseWithin? (low high : Int) (s : List Char) : Option Int :=
  (parseInteger? s).filter fun i => low ≤ i && i ≤ high

/-- The least and the greatest integer of so many bits, one of them for the sign. -/
def signedRange (bits : Nat) : Int × Int :=
  let half := Nat.pow 2 (bits - 1)
  (-(half : Int), (half : Int) - 1)

/-- The integers of 64 bits. -/
def isInt64 (i : Int) : Bool := (signedRange 64).1 ≤ i && i ≤ (signedRange 64).2

end TypedPrefs.Number
