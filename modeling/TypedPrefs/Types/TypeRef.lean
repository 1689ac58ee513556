import TypedPrefs.Types.Primitive

/-!
# References to types

A reference names a primitive, a declared type with its arguments, or a parameter of the declaration
around it. Substitution replaces parameters by arguments, all at once.

`TypeRef` and `TypeParam` are those of the generator's module `types`; `boxed` and `unboxed` are
`box_type` and `unbox_type` of `universe`, and `containsVariable` is `contains_variable` of
`resolve`. `instantiate` models what `substitute` does to a type, `withVariables` what
`with_variables` does.
-/

namespace TypedPrefs

/-- A reference to a type. -/
inductive TypeRef where
  /-- A primitive value type. -/
  | primitive (kind : PrimitiveKind)
  /-- The absence of a value. -/
  | void
  /-- A named type with its arguments. -/
  | declared (name : String) (args : List TypeRef)
  /-- A parameter of the enclosing declaration. -/
  | variable (name : String)
  deriving Repr, Inhabited

namespace TypeRef

mutual

/-- Equality of references is decidable. -/
def decEq : (a b : TypeRef) → Decidable (a = b)
  | .primitive k, .primitive l =>
    if h : k = l then isTrue (h ▸ rfl) else isFalse fun e => h (TypeRef.primitive.inj e)
  | .void, .void => isTrue rfl
  | .declared m as, .declared n bs =>
    if h : m = n then
      match decEqList as bs with
      | isTrue h' => isTrue (h ▸ h' ▸ rfl)
      | isFalse h' => isFalse fun e => h' (TypeRef.declared.inj e).2
    else isFalse fun e => h (TypeRef.declared.inj e).1
  | .variable m, .variable n =>
    if h : m = n then isTrue (h ▸ rfl) else isFalse fun e => h (TypeRef.variable.inj e)
  | .primitive _, .void | .primitive _, .declared _ _ | .primitive _, .variable _
  | .void, .primitive _ | .void, .declared _ _ | .void, .variable _
  | .declared _ _, .primitive _ | .declared _ _, .void | .declared _ _, .variable _
  | .variable _, .primitive _ | .variable _, .void | .variable _, .declared _ _ =>
    isFalse nofun

/-- Equality of lists of references is decidable. -/
def decEqList : (as bs : List TypeRef) → Decidable (as = bs)
  | [], [] => isTrue rfl
  | a :: as, b :: bs =>
    match decEq a b, decEqList as bs with
    | isTrue h, isTrue h' => isTrue (h ▸ h' ▸ rfl)
    | isFalse h, _ => isFalse fun e => h (List.cons.inj e).1
    | _, isFalse h => isFalse fun e => h (List.cons.inj e).2
  | [], _ :: _ | _ :: _, [] => isFalse nofun

end

instance : DecidableEq TypeRef := decEq

/-- A declared type without arguments. -/
def named (name : String) : TypeRef := .declared name []

/-- The name of a declared type. -/
def declaredName? : TypeRef → Option String
  | .declared name _ => some name
  | _ => none

/-- The arguments of a declared type; other references have none. -/
def args : TypeRef → List TypeRef
  | .declared _ args => args
  | _ => []

/-- Whether this is the declared type `name` with whatever arguments. -/
def hasName (name : String) (t : TypeRef) : Bool := t.declaredName? == some name

mutual

/-- Bare references to one of `params` become variables. A reference with arguments stays a declared
type even if its name is a parameter's. -/
def withVariables (params : List String) : TypeRef → TypeRef
  | .declared name args =>
    if args.isEmpty && params.contains name then .variable name
    else .declared name (withVariablesList params args)
  | .primitive kind => .primitive kind
  | .void => .void
  | .variable name => .variable name

/-- `withVariables` on each reference of a list. -/
def withVariablesList (params : List String) : List TypeRef → List TypeRef
  | [] => []
  | t :: ts => withVariables params t :: withVariablesList params ts

end

mutual

/-- Replaces each variable by the reference that is bound to it. Unbound variables stay. -/
def instantiate (bindings : List (String × TypeRef)) : TypeRef → TypeRef
  | .variable name => (bindings.lookup name).getD (.variable name)
  | .declared name args => .declared name (instantiateList bindings args)
  | .primitive kind => .primitive kind
  | .void => .void

/-- `instantiate` on each reference of a list. -/
def instantiateList (bindings : List (String × TypeRef)) : List TypeRef → List TypeRef
  | [] => []
  | t :: ts => instantiate bindings t :: instantiateList bindings ts

end

/-- Replaces parameters by the arguments at their positions. Of a repeated parameter the first
position counts; parameters beyond the last argument stay. -/
def substitute (params : List String) (args : List TypeRef) (t : TypeRef) : TypeRef :=
  instantiate (params.zip args) t

mutual

/-- The reference as it is written in a declaration. -/
def display : TypeRef → String
  | .primitive kind => kind.name
  | .void => "void"
  | .variable name => name
  | .declared name [] => name
  | .declared name (arg :: rest) => name ++ "<" ++ display arg ++ displayRest rest ++ ">"

/-- The arguments after the first, each after a comma. -/
def displayRest : List TypeRef → String
  | [] => ""
  | t :: ts => ", " ++ display t ++ displayRest ts

end

mutual

/-- Whether a variable occurs in the reference. -/
def containsVariable : TypeRef → Bool
  | .variable _ => true
  | .declared _ args => containsVariableList args
  | .primitive _ => false
  | .void => false

/-- Whether a variable occurs in one of the references. -/
def containsVariableList : List TypeRef → Bool
  | [] => false
  | t :: ts => containsVariable t || containsVariableList ts

end

/-- The wrapper type of a primitive; other references are unchanged. -/
def boxed : TypeRef → TypeRef
  | .primitive kind => named kind.boxedName
  | t => t

/-- The primitive of a wrapper type; other references are unchanged. -/
def unboxed : TypeRef → TypeRef
  | .declared name [] =>
    match PrimitiveKind.ofBoxedName? name with
    | some kind => .primitive kind
    | none => .declared name []
  | t => t

theorem withVariablesList_eq_map (params : List String) (ts : List TypeRef) :
    withVariablesList params ts = ts.map (withVariables params) := by
  induction ts with
  | nil => rfl
  | cons t ts ih => simp [withVariablesList, ih]

theorem instantiateList_eq_map (bindings : List (String × TypeRef)) (ts : List TypeRef) :
    instantiateList bindings ts = ts.map (instantiate bindings) := by
  induction ts with
  | nil => rfl
  | cons t ts ih => simp [instantiateList, ih]

theorem containsVariableList_eq_any (ts : List TypeRef) :
    containsVariableList ts = ts.any containsVariable := by
  induction ts with
  | nil => rfl
  | cons t ts ih => simp [containsVariableList, ih]

end TypeRef

/-- A parameter of a declared type, with the types its arguments must be subtypes of. -/
structure TypeParam where
  name : String
  bounds : List TypeRef
  deriving Repr, DecidableEq

namespace TypeParam

/-- The bounds, each after its separator. -/
def displayBounds (separator : String) : List TypeRef → String
  | [] => ""
  | b :: bs => separator ++ b.display ++ displayBounds " + " bs

/-- The parameter as it is written in a declaration. -/
def display (p : TypeParam) : String := p.name ++ displayBounds ": " p.bounds

/-- Bare references to one of `params` in the bounds become variables. -/
def withVariables (params : List String) (p : TypeParam) : TypeParam :=
  { p with bounds := p.bounds.map (TypeRef.withVariables params) }

end TypeParam

end TypedPrefs
