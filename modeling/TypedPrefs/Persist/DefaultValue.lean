import TypedPrefs.Document.Printer
import TypedPrefs.Number.Integer
import TypedPrefs.Persist.Kind
import TypedPrefs.Text.Quoted

/-!
# Default values

The default of a preference is given in the form in which its values are stored. Without one it is
`false`, zero, or no value, as the kind has it.

`implicit`, `resolve` and `docText` are `implicit`, `resolve` and `doc_text` of the generator's
module `defaults`; `ofInteger` is `check_range` and `ofFloating` is `check_float`.
-/

namespace TypedPrefs

open Document Number

/-- What a getter gives while nothing is stored. -/
inductive DefaultValue where
  | boolean (b : Bool)
  | integer (i : Int)
  | floating (x : Double)
  | string (s : String)
  /-- A set as it was given, in its order and with its repetitions. -/
  | strings (items : List String)
  /-- No value. -/
  | absent
  deriving Repr, DecidableEq

/-- Why a value is no default of a kind. -/
inductive DefaultFault where
  /-- It is a value of another sort. -/
  | mismatch (kind : StoredKind) (value : Value)
  | notAnInteger (kind : StoredKind) (text : String)
  | notAString (element : Value)
  | outOfRange (kind : StoredKind) (i low high : Int)
  | floatOutOfRange (x : Double)

/-- The wording of a fault. -/
def DefaultFault.message : DefaultFault → String
  | .mismatch kind value =>
    "Invalid default value for " ++ kind.name ++ " preference: " ++ value.text
  | .notAnInteger kind text =>
    "Invalid default value for " ++ kind.name ++ " preference: \"" ++ text ++
      "\" is not an integer"
  | .notAString element =>
    "Invalid default value for string-set preference: element " ++ element.text ++
      " is not a string"
  | .outOfRange kind i low high =>
    "Invalid default value for " ++ kind.name ++ " preference: " ++ toString i ++
      " is out of range " ++ toString low ++ "..=" ++ toString high
  | .floatOutOfRange x =>
    "Invalid default value for float preference: " ++ x.positional ++ " is out of range"

namespace DefaultValue

/-- The default of a kind if none is given. -/
def implicit : StoredKind → DefaultValue
  | .boolean => .boolean false
  | .byte | .char | .short | .int | .long => .integer 0
  | .float | .double => .floating Double.zero
  | .string | .stringSet | .void => .absent

/-- An integer as a default of a kind of integers. -/
def ofInteger (kind : StoredKind) (i : Int) : Except DefaultFault DefaultValue :=
  match kind.range? with
  | some (low, high) =>
    if i < low || high < i then .error (.outOfRange kind i low high) else .ok (.integer i)
  | none => .ok (.integer i)

/-- A text as a default of a kind of integers: blanks around it do not count. -/
def ofIntegerText (kind : StoredKind) (s : String) : Except DefaultFault DefaultValue :=
  match parseWithin? (signedRange 64).1 (signedRange 64).2 (Text.trim s.toList) with
  | some i => ofInteger kind i
  | none => .error (.notAnInteger kind s)

/-- The pattern of the greatest number of 32 bits among those of 64. -/
def greatestSingle : Nat := 0x47EFFFFFE0000000

/-- A number as a default of a kind of numbers. -/
def ofFloating (kind : StoredKind) (x : Double) : Except DefaultFault DefaultValue :=
  if kind = .float && x.isFinite && greatestSingle < x.magnitude then .error (.floatOutOfRange x)
  else .ok (.floating x)

/-- The strings of an array; the first element that is none is the fault. -/
def ofStrings : List Value → Except DefaultFault (List String)
  | [] => .ok []
  | .string s :: rest => (ofStrings rest).map (s :: ·)
  | other :: _ => .error (.notAString other)

/-- A given value as a default of a kind. -/
def ofValue (kind : StoredKind) (value : Value) : Except DefaultFault DefaultValue :=
  match kind, value with
  | .void, _ => .ok .absent
  | .boolean, .boolean b => .ok (.boolean b)
  | .string, .string s => .ok (.string s)
  | .stringSet, .array items => (ofStrings items).map .strings
  | kind, .integer i =>
    if kind.isIntegral then ofInteger kind i
    else if kind.isFloating then ofFloating kind (.ofInt i)
    else .error (.mismatch kind (.integer i))
  | kind, .string s =>
    if kind.isIntegral then ofIntegerText kind s else .error (.mismatch kind (.string s))
  | kind, .float x =>
    if kind.isFloating then ofFloating kind x else .error (.mismatch kind (.float x))
  | kind, other => .error (.mismatch kind other)

/-- The default of a kind, given or not. -/
def resolve (kind : StoredKind) : Option Value → Except DefaultFault DefaultValue
  | none => .ok (implicit kind)
  | some value => ofValue kind value

/-- The default as documentation shows it. -/
def docText : DefaultValue → String
  | .boolean b => toString b
  | .integer i => toString i
  | .floating x => x.precise
  | .string s => Text.quote s
  | .strings items => "[" ++ ", ".intercalate (items.map Text.quote) ++ "]"
  | .absent => "None"

end DefaultValue

end TypedPrefs
