import TypedPrefs.Text.CaseTable
import TypedPrefs.Text.IdentifierTable
import TypedPrefs.Text.PrintTable

/-!
# Classes and case mappings of characters

The classes are those of the Unicode standard, not the ASCII ones of `Char`.
-/

namespace TypedPrefs.Text

/-- Whether `c` has the property `Uppercase`. -/
def isUppercase (c : Char) : Bool := inSpans uppercaseSpans c.toNat

/-- Whether `c` has the property `Lowercase`. -/
def isLowercase (c : Char) : Bool := inSpans lowercaseSpans c.toNat

/-- The image of a character under a case mapping: its entry among the expansions, its image in a
run, or the character itself. -/
def mapCase (expansions : List (Nat × List Nat)) (runs : List CaseRun) (c : Char) : List Char :=
  match expansions.lookup c.toNat with
  | some image => image.map Char.ofNat
  | none =>
    match imageIn runs c.toNat with
    | some image => [Char.ofNat image]
    | none => [c]

/-- The lower case of a character, which may have several characters. -/
def lower (c : Char) : List Char := mapCase lowerExpansions lowerRuns c

/-- The upper case of a character, which may have several characters. -/
def upper (c : Char) : List Char := mapCase upperExpansions upperRuns c

/-- Whether `c` has the property `White_Space`. -/
def isBlank (c : Char) : Bool :=
  let n := c.toNat
  (0x9 ≤ n && n ≤ 0xD) || n == 0x20 || n == 0x85 || n == 0xA0 || n == 0x1680 ||
    (0x2000 ≤ n && n ≤ 0x200A) || n == 0x2028 || n == 0x2029 || n == 0x202F || n == 0x205F ||
    n == 0x3000

/-- Whether `c` is one of the 65 control characters. -/
def isControl (c : Char) : Bool := c.toNat < 0x20 || (0x7F ≤ c.toNat && c.toNat < 0xA0)

/-- Whether `c` may begin a name: `XID_Start` or an underscore. -/
def isNameStart (c : Char) : Bool := c == '_' || inSpans identifierStartSpans c.toNat

/-- Whether `c` may continue a name: `XID_Continue`. -/
def isNamePart (c : Char) : Bool := inSpans identifierContinueSpans c.toNat

/-- Whether `c` stands for itself wherever it is written: it has a visible form and does not attach
to the character before it. -/
def isSelfStanding (c : Char) : Bool :=
  !inSpans graphemeExtendSpans c.toNat && !inSpans unprintableSpans c.toNat

end TypedPrefs.Text
