/-!
# Primitive kinds

The eight kinds of primitive values, with the names they have in a declaration, in the generated
code, and as wrapper types.

`PrimitiveKind` is that of the generator's module `types`, with `from_name` as `ofName?` and
`from_boxed_name` as `ofBoxedName?`.
-/

namespace TypedPrefs

/-- A kind of primitive value. -/
inductive PrimitiveKind where
  | boolean | byte | char | short | int | long | float | double
  deriving Repr, DecidableEq

namespace PrimitiveKind

/-- Every kind, in the order of declaration. -/
def all : List PrimitiveKind := [boolean, byte, char, short, int, long, float, double]

/-- The name in a declaration. -/
def name : PrimitiveKind → String
  | boolean => "boolean"
  | byte => "byte"
  | char => "char"
  | short => "short"
  | int => "int"
  | long => "long"
  | float => "float"
  | double => "double"

/-- The type in the generated code. -/
def codeName : PrimitiveKind → String
  | boolean => "bool"
  | byte => "i8"
  | char => "u16"
  | short => "i16"
  | int => "i32"
  | long => "i64"
  | float => "f32"
  | double => "f64"

/-- The wrapper type, which may stand where only declared types may. -/
def boxedName : PrimitiveKind → String
  | boolean => "Boolean"
  | byte => "Byte"
  | char => "Character"
  | short => "Short"
  | int => "Integer"
  | long => "Long"
  | float => "Float"
  | double => "Double"

/-- The kind with a given name, either that of a declaration or that of the generated code. -/
def ofName? (s : String) : Option PrimitiveKind :=
  all.find? fun kind => kind.name == s || kind.codeName == s

/-- The kind whose wrapper type has a given name. -/
def ofBoxedName? (s : String) : Option PrimitiveKind :=
  all.find? fun kind => kind.boxedName == s

end PrimitiveKind

end TypedPrefs
