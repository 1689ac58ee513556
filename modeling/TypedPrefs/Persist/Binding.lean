import TypedPrefs.Persist.Kind
import TypedPrefs.Types.Subtyping
import TypedPrefs.Types.Wellformed

/-!
# How preferences are stored

A preference of a type that can be stored is stored as it is. An enum is stored by the built-in
serializer of enums. Any other type needs a serializer, whose capability tells what callers see and
what the store gets.

`Binding` is `SerializerBinding` of the generator's module `resolve`, and `Binding.resolve` is its
function `resolve`, whose three branches are `ofPlain`, the one for enums and `ofSerializer`;
`Binding.instantiate` is `instantiate`.
-/

namespace TypedPrefs

/-- How the serializer of a preference is made. -/
inductive Construction where
  /-- There is no serializer. -/
  | none
  /-- The default value of the serializer's type. -/
  | byDefault (serializer : TypeRef)
  /-- From the type token of a type. -/
  | fromToken (serializer token : TypeRef)
  deriving Repr, DecidableEq

/-- The type of the serializer. -/
def Construction.serializer? : Construction → Option TypeRef
  | .none => .none
  | .byDefault serializer => some serializer
  | .fromToken serializer _ => some serializer

/-- Which rule led to a binding. -/
inductive Strategy where
  | plain | implicitEnum | explicit
  deriving Repr, DecidableEq

/-- The name of a rule. -/
def Strategy.name : Strategy → String
  | .plain => "plain"
  | .implicitEnum => "implicit-enum"
  | .explicit => "explicit"

/-- How the values of a preference are seen and stored. -/
structure Binding where
  /-- The type that is declared. -/
  declared : TypeRef
  /-- The type that callers see. -/
  exposed : TypeRef
  /-- The type that the store gets. -/
  persisted : TypeRef
  kind : StoredKind
  construction : Construction
  strategy : Strategy
  deriving Repr, DecidableEq

namespace Binding

/-- Whether there is a serializer. -/
def hasSerializer (b : Binding) : Bool := b.construction ≠ .none

/-- Whether callers see truth values. -/
def isBoolean (b : Binding) : Bool := b.exposed = .primitive .boolean

end Binding

/-- Why there is no binding. -/
inductive BindingFault where
  /-- No kind of stored value fits. -/
  | unsupported (t : TypeRef)
  /-- The serializer is no declared type. -/
  | notDeclared (serializer : TypeRef)
  | unknown (name : String)
  /-- The declared type does not satisfy the bounds of the serializer's parameter. -/
  | bound (serializer declared boxed : TypeRef) (param : TypeParam)
  /-- The capability of the serializer cannot be told. -/
  | unidentified (serializer : TypeRef)
  | incompatible (serializer declared : TypeRef)
  | noConstructor (serializer : TypeRef)
  /-- A walk over supertypes met its limit. The generator has no such fault: its walk goes on. -/
  | endless (t : TypeRef)
  deriving Repr, DecidableEq

/-- The wording of a fault for the preference of the given name. -/
def BindingFault.message (preference : String) : BindingFault → String
  | .unsupported t => "Unsupported preference type: " ++ t.display
  | .notDeclared serializer =>
    "Invalid serializer type " ++ serializer.display ++ " for preference " ++ preference
  | .unknown name => (TypeMisfit.unknown name).message
  | .bound serializer declared boxed param =>
    "Incompatible serializer " ++ serializer.display ++ " for type " ++ declared.display ++
      " of preference " ++ preference ++ ": " ++ boxed.display ++ " does not satisfy bound " ++
      param.display
  | .unidentified serializer =>
    "Unable to identify type arguments of serializer " ++ serializer.display ++
      " for preference " ++ preference
  | .incompatible serializer declared =>
    "Incompatible serializer " ++ serializer.display ++ " for type " ++ declared.display ++
      " of preference " ++ preference
  | .noConstructor serializer =>
    "No suitable constructor found for serializer " ++ serializer.display
  | .endless t => "Endless supertypes: " ++ t.display

namespace Binding

/-- A type that is stored as it is. -/
def ofPlain (declared : TypeRef) : Except BindingFault Binding :=
  match StoredKind.ofType? declared with
  | none => .error (.unsupported declared)
  | some kind => .ok ⟨declared, declared, declared, kind, .none, .plain⟩

/-- A serializer for a declared type. One that has a single parameter and is given without arguments
gets the type as its argument, which must satisfy the bounds of the parameter. -/
def instantiate (u : Universe) (depth : Nat) (declared serializer : TypeRef) :
    Except BindingFault TypeRef :=
  match serializer with
  | .declared name args =>
    match u.get? name with
    | none => .error (.unknown name)
    | some d =>
      match d.params, args with
      | [param], [] =>
        match u.satisfiesBounds? depth declared.boxed param with
        | none => .error (.endless declared.boxed)
        | some false => .error (.bound serializer declared declared.boxed param)
        | some true => .ok (.declared name [declared.boxed])
      | _, _ => .ok serializer
  | other => .error (.notDeclared other)

/-- The exposed and the stored type of a serializer, without variables in them. -/
def capability (u : Universe) (depth : Nat) (serializer : TypeRef) :
    Except BindingFault (TypeRef × TypeRef) :=
  match u.serializerArguments? depth serializer with
  | none => .error (.endless serializer)
  | some none => .error (.unidentified serializer)
  | some (some (source, target)) =>
    if source.containsVariable || target.containsVariable then .error (.unidentified serializer)
    else .ok (source, target)

/-- Whether a serializer can take values of a declared type. One that got the type as its argument
can. -/
def checkCompatible (u : Universe) (depth : Nat) (declared given serializer source : TypeRef) :
    Except BindingFault Unit :=
  if serializer ≠ given then .ok ()
  else
    match u.isSubtype? depth declared.boxed source with
    | none => .error (.endless declared.boxed)
    | some true => .ok ()
    | some false => .error (.incompatible serializer declared)

/-- How a serializer for a declared type is made. -/
def constructionOf (u : Universe) (declared serializer : TypeRef) :
    Except BindingFault Construction :=
  match u.constructorShape serializer with
  | .typeToken => .ok (.fromToken serializer declared.boxed)
  | .noArguments => .ok (.byDefault serializer)
  | .unsupported => .error (.noConstructor serializer)

/-- A type that is stored by a serializer. -/
def ofSerializer (u : Universe) (depth : Nat) (strategy : Strategy) (declared given : TypeRef) :
    Except BindingFault Binding := do
  let serializer ← instantiate u depth declared given
  let (source, target) ← capability u depth serializer
  checkCompatible u depth declared given serializer source
  let construction ← constructionOf u declared serializer
  match StoredKind.ofType? target.unboxed with
  | none => .error (.unsupported target.unboxed)
  | some kind => .ok ⟨declared, source.unboxed, target.unboxed, kind, construction, strategy⟩

/-- How a preference of a declared type is stored, with the serializer that it is given. Walks over
supertypes go at most so deep. -/
def resolve (u : Universe) (depth : Nat) (declared : TypeRef) (serializer : Option TypeRef) :
    Except BindingFault Binding :=
  match serializer with
  | some given => ofSerializer u depth .explicit declared given
  | none =>
    if u.isEnum declared then
      ofSerializer u depth .implicitEnum declared (TypeRef.named Builtin.enumSerializer)
    else ofPlain declared

end Binding

end TypedPrefs
