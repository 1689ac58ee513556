import TypedPrefs.Document.Value

/-!
# Numbers and words of a document

Values that are written without quotes or brackets: numbers, truth values, dates and times. Digits
may be grouped by single underscores.
-/

namespace TypedPrefs.Document.Numeral

open Number

/-- The digits without the underscores between them. There must be a digit on either side of each
underscore. -/
def ungrouped? (isDigit : Char → Bool) : List Char → Option (List Char)
  | [] => none
  | [c] => if isDigit c then some [c] else none
  | c :: '_' :: rest => if isDigit c then (ungrouped? isDigit rest).map (c :: ·) else none
  | c :: rest => if isDigit c then (ungrouped? isDigit rest).map (c :: ·) else none

/-- The value of a digit in some base up to 16. -/
def digitValue (c : Char) : Nat :=
  if c.isDigit then c.toNat - 48 else if 'a' ≤ c then c.toNat - 87 else c.toNat - 55

/-- The number that digits spell in a base. -/
def inBase (base : Nat) (digits : List Char) : Nat :=
  digits.foldl (fun n c => base * n + digitValue c) 0

/-- Whether a character is a digit of base 16. -/
def isHexDigit (c : Char) : Bool :=
  c.isDigit || ('a' ≤ c && c ≤ 'f') || ('A' ≤ c && c ≤ 'F')

/-- Decimal digits without a zero in front of others. -/
def wholeDigits? (s : List Char) : Option (List Char) :=
  match ungrouped? Char.isDigit s with
  | some ('0' :: _ :: _) => none
  | digits => digits

/-- A sign, if there is one, and what follows it. -/
def splitSign : List Char → Bool × List Char
  | '-' :: rest => (true, rest)
  | '+' :: rest => (false, rest)
  | s => (false, s)

/-- An integer with a sign if need be. -/
def signed (negative : Bool) (n : Nat) : Int := if negative then -(n : Int) else n

/-- A decimal integer, or an integer in another base, which has no sign. -/
def integer? (s : List Char) : Option Int :=
  match s with
  | '0' :: 'x' :: rest => (ungrouped? isHexDigit rest).map fun ds => (inBase 16 ds : Int)
  | '0' :: 'o' :: rest =>
    (ungrouped? (fun c => '0' ≤ c && c ≤ '7') rest).map fun ds => (inBase 8 ds : Int)
  | '0' :: 'b' :: rest =>
    (ungrouped? (fun c => c = '0' || c = '1') rest).map fun ds => (inBase 2 ds : Int)
  | _ =>
    let (negative, body) := splitSign s
    (wholeDigits? body).map fun ds => signed negative (inBase 10 ds)

/-- The exponent of a number, or nothing if it has none. -/
def exponent? : List Char → Option Int
  | [] => some 0
  | _ :: rest =>
    let (negative, body) := splitSign rest
    (ungrouped? Char.isDigit body).map fun ds => signed negative (inBase 10 ds)

/-- The digits behind the point, which may be missing together with it. -/
def fraction? : List Char → Option (List Char)
  | [] => some []
  | _ :: rest => ungrouped? Char.isDigit rest

/-- A number with a point or an exponent, or one of the words for numbers without digits. -/
def float? (s : List Char) : Option Value :=
  let (negative, body) := splitSign s
  if body = ['i', 'n', 'f'] then some (.float (.infinite negative))
  else if body = ['n', 'a', 'n'] then some (.float (.nan negative))
  else do
    let isMark (c : Char) : Bool := c = 'e' || c = 'E'
    let mantissa := body.takeWhile (!isMark ·)
    let tail := body.dropWhile (!isMark ·)
    let whole ← wholeDigits? (mantissa.takeWhile (· != '.'))
    let point := mantissa.dropWhile (· != '.')
    if point.isEmpty && tail.isEmpty then none
    let fraction ← fraction? point
    let exponent ← exponent? tail
    let x := Double.ofDecimal negative (inBase 10 (whole ++ fraction)) (exponent - fraction.length)
    some (if x.isFinite then .float x else .hugeFloat)

/-- The value that all of the characters spell. -/
def value? (s : List Char) : Option Value :=
  if s = ['t', 'r', 'u', 'e'] then some (.boolean true)
  else if s = ['f', 'a', 'l', 's', 'e'] then some (.boolean false)
  else
    match Datetime.parse? s, integer? s with
    | some t, _ => some (.datetime t)
    | none, some i => some (.integer i)
    | none, none => float? s

end TypedPrefs.Document.Numeral
