import TypedPrefs.Number.Integer
import TypedPrefs.Types.Builtin
import TypedPrefs.Types.TypeRef

/-!
# Kinds of stored values

What a store can hold. A type that is not of one of these kinds needs a serializer. Values of the
kind `void` are not stored at all; only their key exists.

`StoredKind` is `PersistedKind` of the generator's module `classify`, `range?` is `integer_range`
and `ofType?` is `classify`.
-/

namespace TypedPrefs

/-- A kind of value that can be stored. -/
inductive StoredKind where
  | boolean | byte | char | short | int | long | float | double | string | stringSet | void
  deriving Repr, DecidableEq

namespace StoredKind

/-- Every kind. -/
def all : List StoredKind :=
  [boolean, byte, char, short, int, long, float, double, string, stringSet, void]

/-- The name of a kind in messages. -/
def name : StoredKind → String
  | boolean => "boolean"
  | byte => "byte"
  | char => "char"
  | short => "short"
  | int => "int"
  | long => "long"
  | float => "float"
  | double => "double"
  | string => "string"
  | stringSet => "string-set"
  | void => "void"

/-- The kind with a given name. -/
def ofName? (s : String) : Option StoredKind := all.find? fun kind => kind.name == s

/-- The kind of a primitive. -/
def ofPrimitive : PrimitiveKind → StoredKind
  | .boolean => boolean
  | .byte => byte
  | .char => char
  | .short => short
  | .int => int
  | .long => long
  | .float => float
  | .double => double

/-- The least and the greatest value of a kind of integers. -/
def range? : StoredKind → Option (Int × Int)
  | byte => some (Number.signedRange 8)
  | char => some (0, 0xFFFF)
  | short => some (Number.signedRange 16)
  | int => some (Number.signedRange 32)
  | long => some (Number.signedRange 64)
  | _ => none

/-- Whether values of the kind are integers. -/
def isIntegral : StoredKind → Bool
  | byte | char | short | int | long => true
  | _ => false

/-- Whether values of the kind are floating-point numbers. -/
def isFloating : StoredKind → Bool
  | float | double => true
  | _ => false

/-- The kind in which values of a type are stored as they are. Wrapper types and enums are not. -/
def ofType? : TypeRef → Option StoredKind
  | .primitive kind => some (ofPrimitive kind)
  | .void => some void
  | .declared name args =>
    if name = Builtin.string && args.isEmpty then some string
    else if name = Builtin.set then
      match args with
      | [] => some stringSet
      | [element] => if element = TypeRef.named Builtin.string then some stringSet else none
      | _ => none
    else none
  | .variable _ => none

end StoredKind

end TypedPrefs
