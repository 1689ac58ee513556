import TypedPrefs.SortedMap
import TypedPrefs.Types.Builtin
import TypedPrefs.Types.TypeRef

/-!
# The universe of types

All types that preferences and serializers can refer to: the built-in ones and those that the
declaration adds. Each name is declared once. `Object` is a supertype of every declared type, and an
enum extends `Enum` of itself without saying so.

`Universe` is `TypeUniverse` of the generator's module `universe`: `builtin` is `with_builtins`,
`declare?` is `declare`, and `directSupertypes`, `isEnum` and `constructorShape` are the methods of
these names.
-/

namespace TypedPrefs

/-- What a declaration introduces. -/
inductive DeclKind where
  | plain | interface | enum
  deriving Repr, DecidableEq, Inhabited

/-- The word for a kind in a declaration. -/
def DeclKind.name : DeclKind → String
  | .plain => "class"
  | .interface => "interface"
  | .enum => "enum"

/-- Every kind, in the order in which messages list them. -/
def DeclKind.all : List DeclKind := [.plain, .interface, .enum]

/-- The constructors of a type that lists none: only classes can be made, without arguments. -/
def DeclKind.constructors : DeclKind → List (List TypeRef)
  | .plain => [[]]
  | .interface => []
  | .enum => []

/-- A declared type. -/
structure TypeDecl where
  name : String
  kind : DeclKind
  params : List TypeParam
  /-- The direct supertypes that are written down. -/
  supertypes : List TypeRef
  /-- The parameter types of each constructor. -/
  constructors : List (List TypeRef)
  deriving Repr, DecidableEq

namespace TypeDecl

/-- The names of the parameters. -/
def paramNames (d : TypeDecl) : List String := d.params.map TypeParam.name

/-- The type with its own parameters as arguments. -/
def selfType (d : TypeDecl) : TypeRef := .declared d.name (d.paramNames.map .variable)

/-- All direct supertypes. An enum that does not extend `Enum` explicitly extends `Enum` of
itself. -/
def allSupertypes (d : TypeDecl) : List TypeRef :=
  if d.kind = .enum && !d.supertypes.any (·.hasName Builtin.enum) then
    d.supertypes ++ [.declared Builtin.enum [d.selfType]]
  else d.supertypes

/-- The types that a declaration refers to, in the order in which they are checked. -/
def references (d : TypeDecl) : List TypeRef :=
  d.supertypes ++ d.params.flatMap TypeParam.bounds ++ d.constructors.flatten

end TypeDecl

/-- All types that are known. -/
structure Universe where
  decls : SortedMap TypeDecl

namespace Universe

/-- A class without parameters and supertypes. -/
def plainClass (name : String) : TypeDecl := ⟨name, .plain, [], [], [[]]⟩

/-- The wrapper type of a primitive. -/
def wrapper (kind : PrimitiveKind) : TypeDecl :=
  let supertypes := match kind with
    | .boolean => []
    | .char => []
    | _ => [TypeRef.named Builtin.number]
  { plainClass kind.boxedName with supertypes }

/-- The serializer of enums. -/
def enumSerializer : TypeDecl :=
  let t := TypeRef.variable "T"
  { name := Builtin.enumSerializer
    kind := .plain
    params := [⟨"T", [.declared Builtin.enum [t]]⟩]
    supertypes := [.declared Builtin.serializer [t, TypeRef.named Builtin.string]]
    constructors := [[.declared Builtin.typeToken [t]]] }

/-- The declarations of the built-in types. -/
def builtinDecls : List TypeDecl :=
  [plainClass Builtin.object, plainClass Builtin.number] ++ PrimitiveKind.all.map wrapper ++
    [plainClass Builtin.string,
      ⟨Builtin.set, .interface, [⟨"E", []⟩], [], []⟩,
      ⟨Builtin.enum, .plain, [⟨"E", []⟩], [], []⟩,
      ⟨Builtin.typeToken, .plain, [⟨"T", []⟩], [], []⟩,
      ⟨Builtin.serializer, .interface, [⟨"S", []⟩, ⟨"T", []⟩], [], []⟩,
      enumSerializer]

/-- The universe of the built-in types. -/
def builtin : Universe := ⟨.ofList (builtinDecls.map fun d => (d.name, d))⟩

/-- The declaration of a name. -/
def get? (u : Universe) (name : String) : Option TypeDecl := u.decls.get? name

/-- Whether a name is declared. -/
def contains (u : Universe) (name : String) : Bool := u.decls.contains name

/-- The universe with another declaration, unless its name is taken. -/
def declare? (u : Universe) (d : TypeDecl) : Option Universe :=
  if u.contains d.name then none else some ⟨u.decls.put d.name d⟩

/-- The wording where a name is taken. -/
def duplicateMessage (name : String) : String := "Duplicate type declaration: " ++ name

/-- The direct supertypes of a type, for the arguments that it has. Only declared types have any. -/
def directSupertypes (u : Universe) : TypeRef → List TypeRef
  | .declared name args =>
    match u.get? name with
    | some d => d.allSupertypes.map (TypeRef.substitute d.paramNames args)
    | none => []
  | _ => []

/-- Whether a type is an enum: a direct subtype of `Enum`. -/
def isEnum (u : Universe) (t : TypeRef) : Bool :=
  (u.directSupertypes t).any (·.hasName Builtin.enum)

/-- How a serializer can be made. -/
inductive ConstructorShape where
  /-- From nothing. -/
  | noArguments
  /-- From a type token. -/
  | typeToken
  | unsupported
  deriving Repr, DecidableEq

/-- How a serializer of a type can be made. A constructor that takes a type token comes before one
without arguments. -/
def constructorShape (u : Universe) (t : TypeRef) : ConstructorShape :=
  match t.declaredName?.bind u.get? with
  | none => .unsupported
  | some d =>
    let takesToken := d.constructors.any fun
      | [param] => param.hasName Builtin.typeToken
      | _ => false
    if takesToken then .typeToken
    else if d.constructors.any List.isEmpty then .noArguments
    else .unsupported

end Universe

end TypedPrefs
