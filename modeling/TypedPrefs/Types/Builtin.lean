/-!
# Names of the built-in types

These are the names of the constants at the head of the generator's module `universe`.
-/

namespace TypedPrefs.Builtin

/-- The supertype of all declared types. -/
def object : String := "Object"

/-- The supertype of the wrapper types of numbers. -/
def number : String := "Number"

/-- Text. -/
def string : String := "String"

/-- Sets, of strings if nothing else is said. -/
def set : String := "Set"

/-- The supertype of each enum, with the enum itself as its argument. -/
def enum : String := "Enum"

/-- The type token of its argument. -/
def typeToken : String := "Class"

/-- What a serializer is: a supertype with the exposed and the stored type as its arguments. -/
def serializer : String := "PreferenceSerializer"

/-- The serializer of enums. -/
def enumSerializer : String := "EnumSerializer"

end TypedPrefs.Builtin
