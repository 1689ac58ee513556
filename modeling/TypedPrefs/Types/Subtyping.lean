import TypedPrefs.Types.Universe

/-!
# Walks over supertypes

A type is a subtype of another if a walk over direct supertypes leads there. Arguments never vary.
Walks go depth first in the order of declaration and enter no type twice. Types whose supertypes
grow without end have endless walks, so every walk has a limit on its depth; the answer `none` means
that the limit was met.

`isSubtype?` models `is_subtype` with `is_subtype_inner`, `satisfiesBounds?` models
`satisfies_bounds`, and `serializerArguments?` models `find_serializer_arguments` with
`find_serializer_instantiation`. These have no limit and go on where a walk here answers `none`.
-/

namespace TypedPrefs

namespace Universe

/-- What a walk has found after some steps: an answer, if there is one yet, and the types
entered. -/
abbrev Trail (α : Type) := Option (Option α × List String)

/-- Walks from each type of a list until one gives an answer. -/
def firstAnswer {α : Type} (walk : List String → TypeRef → Trail α) :
    List String → List TypeRef → Trail α
  | entered, [] => some (none, entered)
  | entered, t :: rest =>
    match walk entered t with
    | none => none
    | some (some a, entered) => some (some a, entered)
    | some (none, entered) => firstAnswer walk entered rest

/-- Enters a type and goes on from its direct supertypes, unless it has been entered before. -/
def enter {α : Type} (u : Universe) (walk : List String → TypeRef → Trail α) (skip : TypeRef → Bool)
    (entered : List String) (t : TypeRef) : Trail α :=
  if entered.contains t.display then some (none, entered)
  else firstAnswer walk (t.display :: entered) ((u.directSupertypes t).filter (!skip ·))

/-- Whether a type is `Object`. -/
def isObject (t : TypeRef) : Bool := t = TypeRef.named Builtin.object

/-- A walk to `sup`, at most so deep. Every declared type and every variable is a subtype of
`Object`. -/
def subtypeWalk (u : Universe) (sup : TypeRef) : Nat → List String → TypeRef → Trail Unit
  | 0, _, _ => none
  | depth + 1, entered, t =>
    if t = sup then some (some (), entered)
    else
      match t with
      | .primitive _ => some (none, entered)
      | .void => some (none, entered)
      | .variable _ => some (if isObject sup then some () else none, entered)
      | .declared _ _ =>
        if isObject sup then some (some (), entered)
        else enter u (subtypeWalk u sup depth) (fun _ => false) entered t

/-- Whether `sub` is `sup` or one of its subtypes. -/
def isSubtype? (u : Universe) (depth : Nat) (sub sup : TypeRef) : Option Bool :=
  (u.subtypeWalk sup depth [] sub).map fun (answer, _) => answer.isSome

/-- Whether a type is a subtype of all of the others. -/
def isSubtypeOfAll? (u : Universe) (depth : Nat) (t : TypeRef) : List TypeRef → Option Bool
  | [] => some true
  | sup :: rest =>
    match u.isSubtype? depth t sup with
    | some true => isSubtypeOfAll? u depth t rest
    | answer => answer

/-- Whether a type satisfies the bounds of a parameter, in which the parameter stands for the
type. -/
def satisfiesBounds? (u : Universe) (depth : Nat) (t : TypeRef) (p : TypeParam) : Option Bool :=
  u.isSubtypeOfAll? depth t (p.bounds.map (TypeRef.substitute [p.name] [t]))

/-- A walk to the first serializer capability, at most so deep. `Object` is left out on the way. -/
def serializerWalk (u : Universe) : Nat → List String → TypeRef → Trail TypeRef
  | 0, _, _ => none
  | depth + 1, entered, t =>
    if t.hasName Builtin.serializer then some (some t, entered)
    else enter u (serializerWalk u depth) isObject entered t

/-- The exposed and the stored type of a serializer. The first capability found must have exactly
these two arguments. -/
def serializerArguments? (u : Universe) (depth : Nat) (t : TypeRef) :
    Option (Option (TypeRef × TypeRef)) :=
  (u.serializerWalk depth [] t).map fun (answer, _) =>
    match answer.map TypeRef.args with
    | some [source, target] => some (source, target)
    | _ => none

end Universe

end TypedPrefs
