import TypedPrefs.Number.Binary
import TypedPrefs.Persist.Kind
import TypedPrefs.SortedMap

/-!
# Stored values

A store holds values of six shapes. A preference has a value of its own kind, which is put into one
of these shapes: the small integers are widened to 32 bits, a number of 64 bits is kept as its bit
pattern, and a string or a set may be absent, which means that nothing is stored.

The main statement is that a value that is stored is read back (`decode_of_encode`).

`encode` and `decode` are `into_stored` and `from_stored` of the run-time library's trait
`Persisted`, for each of its types.
-/

namespace TypedPrefs

open Number

/-- A set of strings in increasing order. -/
abbrev StringSet := SortedMap Unit

namespace StringSet

/-- The set of the given strings. -/
def ofStrings (items : List String) : StringSet := SortedMap.ofList (items.map (·, ()))

/-- The strings of a set in increasing order. -/
def toStrings (s : StringSet) : List String := s.keys

end StringSet

/-- The values of a kind. -/
abbrev StoredKind.Value : StoredKind → Type
  | .boolean => Bool
  | .byte => Int8
  | .char => UInt16
  | .short => Int16
  | .int => Int32
  | .long => Int64
  | .float => Single
  | .double => Double
  | .string => Option String
  | .stringSet => Option StringSet
  | .void => Unit

/-- A value in a store. -/
inductive StoredValue where
  | boolean (b : Bool)
  | int (i : Int32)
  | long (i : Int64)
  | float (x : Single)
  | string (s : String)
  | strings (s : StringSet)
  deriving DecidableEq

/-- The shapes of values in a store. -/
inductive StoredShape where
  | boolean | int | long | float | string | strings
  deriving Repr, DecidableEq

/-- The name of a shape. -/
def StoredShape.name : StoredShape → String
  | .boolean => "Bool"
  | .int => "Int"
  | .long => "Long"
  | .float => "Float"
  | .string => "String"
  | .strings => "StringSet"

/-- The name of a shape in short. -/
def StoredShape.shortName : StoredShape → String
  | .boolean => "bool"
  | .int => "int"
  | .long => "long"
  | .float => "float"
  | .string => "string"
  | .strings => "string-set"

/-- The shape of a value. -/
def StoredValue.shape : StoredValue → StoredShape
  | .boolean _ => .boolean
  | .int _ => .int
  | .long _ => .long
  | .float _ => .float
  | .string _ => .string
  | .strings _ => .strings

namespace StoredKind

/-- The shape that values of a kind are stored in. -/
def shape? : StoredKind → Option StoredShape
  | .boolean => some .boolean
  | .byte => some .int
  | .char => some .int
  | .short => some .int
  | .int => some .int
  | .long => some .long
  | .float => some .float
  | .double => some .long
  | .string => some .string
  | .stringSet => some .strings
  | .void => none

/-- What is stored for a value, if anything is. -/
def encode : (k : StoredKind) → k.Value → Option StoredValue
  | .boolean, b => some (.boolean b)
  | .byte, i => some (.int (Int8.toInt32 i))
  | .char, c => some (.int (UInt32.toInt32 (UInt16.toUInt32 c)))
  | .short, i => some (.int (Int16.toInt32 i))
  | .int, i => some (.int i)
  | .long, i => some (.long i)
  | .float, x => some (.float x)
  | .double, x => some (.long (UInt64.toInt64 (Double.bits x)))
  | .string, s => Option.map .string s
  | .stringSet, s => Option.map .strings s
  | .void, () => none

/-- The value that is stored, if it has the shape for the kind. Of an integer that is too great for
the kind the low bits count. -/
def decode : (k : StoredKind) → StoredValue → Option k.Value
  | .boolean, .boolean b => some b
  | .byte, .int i => some i.toInt8
  | .char, .int i => some i.toUInt32.toUInt16
  | .short, .int i => some i.toInt16
  | .int, .int i => some i
  | .long, .long i => some i
  | .float, .float x => some x
  | .double, .long i => some (Double.mk i.toUInt64)
  | .string, .string s => some (some s)
  | .stringSet, .strings s => some (some s)
  | _, _ => none

/-- A value that is stored is read back. -/
theorem decode_of_encode {k : StoredKind} {v : k.Value} {s : StoredValue}
    (h : k.encode v = some s) : k.decode s = some v := by
  cases k with
  | string | stringSet =>
    obtain ⟨t, rfl, rfl⟩ := Option.map_eq_some_iff.1 h
    rfl
  | void => cases h
  | _ => cases h; simp [decode]

/-- A value is stored in the shape for its kind. -/
theorem shape_of_encode {k : StoredKind} {v : k.Value} {s : StoredValue}
    (h : k.encode v = some s) : k.shape? = some s.shape := by
  cases k with
  | string | stringSet =>
    obtain ⟨t, rfl, rfl⟩ := Option.map_eq_some_iff.1 h
    rfl
  | void => cases h
  | _ => cases h; rfl

end StoredKind

end TypedPrefs
