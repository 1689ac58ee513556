/-!
# Errors of a class

What can go wrong when a generated class is used: calls in the wrong order, keys that are not to be
found, and values that a serializer refuses.

`PrefError` and `SerializationError` are the types of these names in the run-time library.
-/

namespace TypedPrefs

/-- A value that cannot be converted. -/
structure SerializationError where
  message : String
  deriving Repr, DecidableEq

namespace SerializationError

/-- There is no variant of an enum with a name. -/
def unknownVariant (typeName name : String) : SerializationError :=
  ⟨"no variant of " ++ typeName ++ " named '" ++ name ++ "'"⟩

/-- The error as text. -/
def text (e : SerializationError) : String := "serialization error: " ++ e.message

end SerializationError

/-- What a class can fail with. -/
inductive PrefError where
  | alreadyInitialized
  | notInitialized
  | missingResource (name : String)
  | serialization (e : SerializationError)
  deriving Repr, DecidableEq

namespace PrefError

/-- The wording of an error. -/
def message : PrefError → String
  | .alreadyInitialized => "illegal state: preferences have already been initialized"
  | .notInitialized => "illegal state: preferences have not yet been initialized"
  | .missingResource name => "missing string resource: " ++ name
  | .serialization e => e.text

/-- The number of an error. -/
def code : PrefError → Nat
  | .alreadyInitialized => 1
  | .notInitialized => 2
  | .missingResource _ => 3
  | .serialization _ => 4

/-- Whether the error comes from calls in the wrong order. -/
def isIllegalState : PrefError → Bool
  | .alreadyInitialized => true
  | .notInitialized => true
  | _ => false

end PrefError

end TypedPrefs
