import TypedPrefs.Blueprint.Types
import TypedPrefs.Naming.Case
import TypedPrefs.Naming.Identifier
import TypedPrefs.Persist.Binding
import TypedPrefs.Persist.DefaultValue

/-!
# Preferences of a class

A preference that has been checked: its names, its key, how it is stored and its default.

`preference` models `build` of the generator's module `preference` step by step; `parseSerializer`
and `parseType` are its uses of `parse_checked`.
-/

namespace TypedPrefs.Blueprint

open Declaration Naming

/-- What the preferences of a class have in common. -/
structure Context where
  types : Universe
  /-- How deep walks over supertypes go. The generator has no limit. -/
  depth : Nat
  fluent : Bool
  editor : Bool

/-- The methods of a preference that has a value. -/
structure Accessors where
  getter : String
  setter : String
  editorSetter : String
  deriving Repr, DecidableEq

/-- A checked preference. -/
structure Preference where
  /-- The position in its group. -/
  index : Nat
  name : String
  /-- The method that gives its key. -/
  method : String
  /-- The name of the resource that holds its key. -/
  keyResource : String
  binding : Binding
  default : DefaultValue
  documentation : Option String
  /-- The methods for its value; a void preference has none. -/
  accessors : Option Accessors
  deriving Repr, DecidableEq

namespace Preference

/-- Whether the preference has only a key. -/
def isVoid (p : Preference) : Bool := p.binding.kind = .void

/-- The field of the group that holds the serializer. -/
def serializerField (p : Preference) : String := p.method ++ "_serializer"

end Preference

/-- Why a preference cannot be generated. -/
inductive PreferenceFault where
  | illegalName (name : String)
  | illegalKey (key : String)
  | type (e : InvalidType)
  | misfit (m : TypeMisfit)
  | binding (preference : String) (f : BindingFault)
  | default (f : DefaultFault)

/-- The wording of a fault. -/
def PreferenceFault.message : PreferenceFault → Message
  | .illegalName name => "Illegal preference name: " ++ name
  | .illegalKey key => "Illegal preference key: " ++ key
  | .type e => e.message
  | .misfit m => m.message
  | .binding preference f => f.message preference
  | .default f => f.message

/-- The type that a text stands for, which must fit the universe. -/
def parseType (u : Universe) (s : String) : Except PreferenceFault TypeRef :=
  match TypeRef.parse s with
  | .error e => .error (.type e)
  | .ok t =>
    match u.misfit? t with
    | some m => .error (.misfit m)
    | none => .ok t

/-- The type of an optional serializer. -/
def parseSerializer (u : Universe) : Option String → Except PreferenceFault (Option TypeRef)
  | none => .ok none
  | some s => (parseType u s).map some

/-- The method of a preference: its name in snake case. Neither may be a reserved word. -/
def preferenceMethod (name : String) : Except PreferenceFault String :=
  let method := snakeCase name
  if !isIdentifier name || isReservedWord name || !isUsable method then .error (.illegalName name)
  else .ok method

/-- The key of a preference, which must be an identifier. -/
def preferenceKey (keyPrefix keySuffix name : String) : Except PreferenceFault String :=
  let key := keyPrefix ++ name ++ keySuffix
  if isIdentifier key then .ok key else .error (.illegalKey key)

/-- The documentation of a preference that has a description. -/
def documentation (description : String) (kind : StoredKind) (default : DefaultValue) :
    Option String :=
  if description.isEmpty then none
  else if kind = .void then some description
  else some (description ++ "\n\n(default: " ++ default.docText ++ ")")

/-- The methods of a preference that has a value. -/
def accessorsOf (c : Context) (method : String) (b : Binding) : Option Accessors :=
  if b.kind = .void then none
  else
    some
      { getter := getterName method b.isBoolean c.fluent
        setter := setterName method
        editorSetter := editorSetterName method c.fluent }

/-- The names and the binding of a preference, before its default is looked at. -/
def preferenceBinding (c : Context) (keyPrefix keySuffix : String) (s : PreferenceSection) :
    Except PreferenceFault (String × String × Binding) := do
  let method ← preferenceMethod s.name
  let key ← preferenceKey keyPrefix keySuffix s.name
  let declared ← parseType c.types s.type
  let serializer ← parseSerializer c.types s.serializer
  let b ← (Binding.resolve c.types c.depth declared serializer).mapError (.binding s.name)
  return (method, key, b)

/-- The preference at an index of its group, if it is right, and what is reported about it. A
default of a void preference is only worth a warning. -/
def preference (c : Context) (group : Nat) (keyPrefix keySuffix : String) (index : Nat)
    (s : PreferenceSection) : Option Preference × List Diagnostic :=
  let location := Location.preference group index s.name
  match preferenceBinding c keyPrefix keySuffix s with
  | .error fault => (none, [.error location fault.message])
  | .ok (method, keyResource, b) =>
    let warnings :=
      if b.kind = .void && s.default.isSome then
        [.warning location
          ("Default value of void preference " ++ s.name ++ " has no effect")]
      else []
    match DefaultValue.resolve b.kind s.default with
    | .error fault => (none, warnings ++ [.error location fault.message])
    | .ok default =>
      (some
        { index, name := s.name, method, keyResource, binding := b, default
          documentation := documentation s.description b.kind default
          accessors := accessorsOf c method b },
        warnings)

end TypedPrefs.Blueprint
