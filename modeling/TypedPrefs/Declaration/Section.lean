import TypedPrefs.Document.Value
import TypedPrefs.Types.Universe

/-!
# Declarations

A declaration as it is written: what class to generate, its groups of preferences, and the types
that they refer to. Names and types are texts that have not been checked.

These are the sections of the generator's module `schema` and the settings of its module `config`,
with the defaults that are given there.
-/

namespace TypedPrefs.Declaration

/-- Options of the generator. -/
structure Options where
  /-- The path by which the generated code reaches what it needs at run time. -/
  runtimePath : String := "::prefgen_core"
  /-- Whether documentation is generated. -/
  emitDocs : Bool := true
  deriving Repr, DecidableEq

/-- A preference. -/
structure PreferenceSection where
  name : String := ""
  type : String := ""
  /-- The default value in the form in which values are stored. -/
  default : Option Document.Value := none
  description : String := ""
  serializer : Option String := none
  deriving Repr

/-- A group of preferences. -/
structure GroupSection where
  name : String := ""
  /-- What stands in front of the names of keys. -/
  keyPrefix : String := ""
  /-- What stands behind the names of keys. -/
  keySuffix : String := ""
  preferences : List PreferenceSection := []
  deriving Repr

/-- The class to generate. -/
structure ClassSection where
  /-- The name of the class behind those of its modules, with points between them. -/
  name : String := ""
  /-- The type that holds the key resources, for documentation. -/
  resources : Option String := none
  /-- Whether the class is visible everywhere. -/
  finalized : Bool := false
  /-- Whether getters and editor setters have bare names. -/
  fluent : Bool := true
  /-- Whether groups have editors. -/
  editor : Bool := true
  groups : List GroupSection := []
  deriving Repr

/-- A type that preferences refer to. -/
structure TypeSection where
  name : String := ""
  kind : DeclKind := .plain
  params : List String := []
  supertypes : List String := []
  /-- The constructors, if they are not those of the kind. -/
  constructors : Option (List (List String)) := none
  deriving Repr, DecidableEq

end TypedPrefs.Declaration

namespace TypedPrefs

open Declaration in
/-- A whole declaration. -/
structure Declaration where
  options : Options := {}
  main : ClassSection := {}
  types : List TypeSection := []
  deriving Repr

end TypedPrefs
