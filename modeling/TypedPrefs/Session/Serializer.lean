import TypedPrefs.Enums.Implementation
import TypedPrefs.Session.Error
import TypedPrefs.Store.Value

/-!
# Serializers

A serializer converts between the values that a getter gives and those that are stored. Either way
may fail.

`Serializer` is the trait `PreferenceSerializer` of the run-time library; the serializer of a
derived enum is its `EnumSerializer`.
-/

namespace TypedPrefs

/-- A pair of conversions. -/
structure Serializer (source target : Type) where
  serialize : source → Except SerializationError target
  deserialize : target → Except SerializationError source

/-- The serializer that leaves values as they are. -/
def Serializer.identity (α : Type) : Serializer α α := ⟨.ok, .ok⟩

/-- The serializer of an enum persisted by name. No value is no name. A variant that the enum does
not have has no name either. -/
def EnumImplementation.serializer (e : EnumImplementation) :
    Serializer (Option String) (Option String) where
  serialize
    | none => .ok none
    | some variant =>
      match e.name? variant with
      | some name => .ok (some name)
      | none => .error (.unknownVariant e.typeName variant)
  deserialize
    | none => .ok none
    | some name =>
      match e.fromName? name with
      | some variant => .ok (some variant)
      | none => .error (.unknownVariant e.typeName name)

/-- How the values of a preference of a kind are seen from outside. -/
structure Exposure (k : StoredKind) where
  Source : Type
  serializer : Serializer Source k.Value

/-- Values are seen as they are stored. -/
def Exposure.plain (k : StoredKind) : Exposure k := ⟨k.Value, .identity _⟩

end TypedPrefs
