import Mathlib.Logic.Basic
import TypedPrefs.Persist.Binding
import TypedPrefs.Proofs.Result
import TypedPrefs.Proofs.Types.Parts
import TypedPrefs.Proofs.Types.Walks

/-!
# What a binding promises

Every binding that is found is one of two things: a type that is stored as it is, or a type with a
serializer whose capability is among its supertypes. Both are said here without the walks that find
them, by `Reaches` and `IsSubtype`.
-/

namespace TypedPrefs

/-- The types that a serializer is made from, itself first. -/
def Construction.types : Construction → List TypeRef
  | .none => []
  | .byDefault serializer => [serializer]
  | .fromToken serializer token => [serializer, token]

namespace Binding

open Universe

/-! ## The two kinds of bindings -/

/-- A binding without a serializer: callers and the store get the declared type. -/
structure IsPlain (u : Universe) (declared : TypeRef) (given : Option TypeRef) (b : Binding) :
    Prop where
  notGiven : given = none
  notEnum : u.isEnum declared = false
  construction : b.construction = .none
  strategy : b.strategy = .plain
  exposed : b.exposed = declared
  persisted : b.persisted = declared

/-- The serializer that is asked for: the one that is given, or that of enums. -/
def chosenSerializer (given : Option TypeRef) : TypeRef :=
  given.getD (TypeRef.named Builtin.enumSerializer)

/-- A declared type that is named without its only argument. -/
def IsRawGeneric (u : Universe) (t : TypeRef) (name : String) (param : TypeParam) : Prop :=
  t = .declared name [] ∧ ∃ d, u.get? name = some d ∧ d.params = [param]

/-- A serializer that got the declared type, in its boxed form, as its only argument. -/
def IsCompletion (u : Universe) (declared given serializer : TypeRef) : Prop :=
  ∃ name param, IsRawGeneric u given name param ∧
    serializer = .declared name [declared.boxed] ∧
    ∀ bound ∈ param.bounds,
      u.IsSubtype declared.boxed (bound.substitute [param.name] [declared.boxed])

/-- A way to make a serializer that its declaration offers. A constructor that takes a type token
comes before one without arguments. -/
inductive IsOffered (u : Universe) (declared serializer : TypeRef) : Construction → Prop
  | fromToken {name : String} {d : TypeDecl} {param : TypeRef} :
      serializer.declaredName? = some name → u.get? name = some d →
      [param] ∈ d.constructors → param.hasName Builtin.typeToken = true →
      IsOffered u declared serializer (.fromToken serializer declared.boxed)
  | byDefault {name : String} {d : TypeDecl} :
      serializer.declaredName? = some name → u.get? name = some d →
      [] ∈ d.constructors →
      (∀ param, [param] ∈ d.constructors → param.hasName Builtin.typeToken = false) →
      IsOffered u declared serializer (.byDefault serializer)

/-- A binding with a serializer that has the capability to turn values of the type `source` into
values of the type `target`. -/
structure IsSerialized (u : Universe) (declared : TypeRef) (given : Option TypeRef) (b : Binding)
    (serializer source target : TypeRef) : Prop where
  isEnum : given = none → u.isEnum declared = true
  strategy : b.strategy = if given.isSome then .explicit else .implicitEnum
  /-- Only a serializer that is not completed has to be compatible with the declared type. -/
  fits : IsCompletion u declared (chosenSerializer given) serializer ∨
    ((∀ name param, ¬ IsRawGeneric u (chosenSerializer given) name param) ∧
      serializer = chosenSerializer given ∧ u.IsSubtype declared.boxed source)
  capability : u.Reaches serializer (.declared Builtin.serializer [source, target])
  source_closed : ∀ x, .variable x ∉ source.parts
  target_closed : ∀ x, .variable x ∉ target.parts
  exposed : b.exposed = source.unboxed
  persisted : b.persisted = target.unboxed
  construction : IsOffered u declared serializer b.construction

/-! ## The steps of a resolution -/

section Steps

variable {u : Universe} {depth : Nat} {declared given serializer source target : TypeRef}

/-- A serializer is completed or taken as it is given. -/
theorem instantiate_sound (h : instantiate u depth declared given = .ok serializer) :
    IsCompletion u declared given serializer ∨
      ((∀ name param, ¬ IsRawGeneric u given name param) ∧ serializer = given) := by
  cases given with
  | declared name args =>
    simp only [instantiate] at h
    split at h
    · cases h
    · next d hd =>
      split at h
      · next param hparams =>
        split at h
        · cases h
        · cases h
        · next hbounds =>
          cases h
          exact .inl ⟨name, param, ⟨rfl, d, hd, hparams⟩, rfl,
            isSubtype_of_satisfiesBounds? hbounds⟩
      · next hshape =>
        cases h
        -- the only way to be a raw generic is the case above
        refine .inr ⟨?_, rfl⟩
        rintro name' param ⟨heq, d', hd', hparams⟩
        obtain ⟨rfl, hargs⟩ := TypeRef.declared.inj heq
        obtain rfl : d = d' := Option.some.inj (hd.symm.trans hd')
        exact hshape param hparams hargs
  | _ => cases h

/-- A capability is among the supertypes and has no variables. -/
theorem capability_sound (h : capability u depth serializer = .ok (source, target)) :
    u.Reaches serializer (.declared Builtin.serializer [source, target]) ∧
      (∀ x, .variable x ∉ source.parts) ∧ ∀ x, .variable x ∉ target.parts := by
  rw [capability] at h
  split at h
  · cases h
  · cases h
  · next hargs =>
    split at h
    · cases h
    · next hclosed =>
      cases h
      simp only [Bool.or_eq_true, not_or, Bool.not_eq_true] at hclosed
      obtain ⟨hsource, htarget⟩ := hclosed
      exact ⟨reaches_of_serializerArguments? hargs,
        TypeRef.containsVariable_eq_false_iff.mp hsource,
        TypeRef.containsVariable_eq_false_iff.mp htarget⟩

/-- A serializer that is taken as it is given can take values of the declared type. -/
theorem checkCompatible_sound (h : checkCompatible u depth declared given given source = .ok ()) :
    u.IsSubtype declared.boxed source := by
  rw [checkCompatible, if_neg (not_not_intro rfl)] at h
  split at h
  · cases h
  · next hsub => exact isSubtype_of_isSubtype? hsub
  · cases h

/-- A type token is taken if one of the constructors has it as its only parameter. -/
theorem constructorShape_eq_typeToken {name : String} {d : TypeDecl}
    (hname : serializer.declaredName? = some name) (hd : u.get? name = some d)
    (h : u.constructorShape serializer = .typeToken) :
    ∃ param, [param] ∈ d.constructors ∧ param.hasName Builtin.typeToken = true := by
  simp only [constructorShape, hname, hd, Option.bind_some] at h
  split at h
  · next htoken =>
    obtain ⟨params, hmem, hparams⟩ := List.any_eq_true.mp htoken
    split at hparams
    · next param => exact ⟨param, hmem, hparams⟩
    · cases hparams
  · split at h <;> cases h

/-- Nothing is needed if there is a constructor without parameters and none takes a type token. -/
theorem constructorShape_eq_noArguments {name : String} {d : TypeDecl}
    (hname : serializer.declaredName? = some name) (hd : u.get? name = some d)
    (h : u.constructorShape serializer = .noArguments) :
    [] ∈ d.constructors ∧
      ∀ param, [param] ∈ d.constructors → param.hasName Builtin.typeToken = false := by
  simp only [constructorShape, hname, hd, Option.bind_some] at h
  split at h
  · cases h
  · next htoken =>
    split at h
    · next hempty =>
      obtain ⟨params, hmem, hparams⟩ := List.any_eq_true.mp hempty
      obtain rfl := List.isEmpty_iff.mp hparams
      refine ⟨hmem, fun param hparam => Bool.eq_false_iff.mpr fun htrue => htoken ?_⟩
      exact List.any_eq_true.mpr ⟨[param], hparam, htrue⟩
    · cases h

/-- A serializer is made in a way that its declaration offers. -/
theorem constructionOf_sound {construction : Construction}
    (h : constructionOf u declared serializer = .ok construction) :
    IsOffered u declared serializer construction := by
  cases hfound : serializer.declaredName?.bind u.get? with
  | none =>
    have hshape : u.constructorShape serializer = .unsupported := by
      simp only [constructorShape, hfound]
    rw [constructionOf, hshape] at h
    cases h
  | some d =>
    obtain ⟨name, hname, hd⟩ := Option.bind_eq_some_iff.mp hfound
    rw [constructionOf] at h
    split at h
    · next hshape =>
      cases h
      obtain ⟨param, hmem, hparam⟩ := constructorShape_eq_typeToken hname hd hshape
      exact .fromToken hname hd hmem hparam
    · next hshape =>
      cases h
      obtain ⟨hmem, hnone⟩ := constructorShape_eq_noArguments hname hd hshape
      exact .byDefault hname hd hmem hnone
    · cases h

/-- What is stored as it is. -/
theorem ofPlain_sound {b : Binding} (hnot : u.isEnum declared = false)
    (h : ofPlain declared = .ok b) :
    b.declared = declared ∧ StoredKind.ofType? b.persisted = some b.kind ∧
      IsPlain u declared none b := by
  rw [ofPlain] at h
  split at h
  · cases h
  · next kind hkind =>
    cases h
    exact ⟨rfl, hkind, rfl, hnot, rfl, rfl, rfl, rfl⟩

end Steps

/-- What is stored by a serializer, be it given or that of enums. -/
theorem ofSerializer_sound {u : Universe} {depth : Nat} {declared : TypeRef} {strategy : Strategy}
    {b : Binding} (given : Option TypeRef)
    (henum : given = none → u.isEnum declared = true)
    (hstrategy : strategy = if given.isSome then .explicit else .implicitEnum)
    (h : ofSerializer u depth strategy declared (chosenSerializer given) = .ok b) :
    b.declared = declared ∧ StoredKind.ofType? b.persisted = some b.kind ∧
      ∃ serializer source target, IsSerialized u declared given b serializer source target := by
  obtain ⟨serializer, hserializer, h⟩ := bind_eq_ok_iff.mp h
  obtain ⟨⟨source, target⟩, hcapability, h⟩ := bind_eq_ok_iff.mp h
  obtain ⟨⟨⟩, hcompatible, h⟩ := bind_eq_ok_iff.mp h
  obtain ⟨construction, hconstruction, h⟩ := bind_eq_ok_iff.mp h
  obtain ⟨hreach, hsource, htarget⟩ := capability_sound hcapability
  split at h
  · cases h
  · next kind hkind =>
    cases h
    refine ⟨rfl, hkind, serializer, source, target, ?_⟩
    exact
      { isEnum := henum
        strategy := hstrategy
        fits := by
          rcases instantiate_sound hserializer with hcompletion | ⟨hraw, rfl⟩
          · exact .inl hcompletion
          · exact .inr ⟨hraw, rfl, checkCompatible_sound hcompatible⟩
        capability := hreach
        source_closed := hsource
        target_closed := htarget
        exposed := rfl
        persisted := rfl
        construction := constructionOf_sound hconstruction }

/-! ## All bindings -/

/-- A binding is plain or has a serializer. -/
theorem plain_or_serialized_of_resolve {u : Universe} {depth : Nat} {declared : TypeRef}
    {given : Option TypeRef} {b : Binding} (h : resolve u depth declared given = .ok b) :
    IsPlain u declared given b ∨
      ∃ serializer source target, IsSerialized u declared given b serializer source target := by
  cases given with
  | some given => exact .inr (ofSerializer_sound (some given) nofun rfl h).2.2
  | none =>
    rw [resolve] at h
    split at h
    · next henum => exact .inr (ofSerializer_sound none (fun _ => henum) rfl h).2.2
    · next hnot => exact .inl (ofPlain_sound (Bool.eq_false_iff.mpr hnot) h).2.2

/-- A property of types that is kept when a type is boxed or becomes the argument of a serializer
that lacks it. The serializer of enums has it, as that one is chosen where none is given. -/
structure IsKept (u : Universe) (P : TypeRef → Prop) : Prop where
  enumSerializer : P (TypeRef.named Builtin.enumSerializer)
  boxed : ∀ t, P t → P t.boxed
  completed : ∀ name param t, IsRawGeneric u (.declared name []) name param →
    P (.declared name []) → P t → P (.declared name [t])

section Kept

variable {u : Universe} {P : TypeRef → Prop} {declared serializer source target : TypeRef}
  {given : Option TypeRef} {b : Binding}

/-- The serializer has what the types have from which it is made. -/
theorem IsKept.of_isSerialized (hP : IsKept u P)
    (h : IsSerialized u declared given b serializer source target) (hdeclared : P declared)
    (hgiven : ∀ t, given = some t → P t) : P serializer := by
  have hchosen : P (chosenSerializer given) := by
    cases given with
    | none => exact hP.enumSerializer
    | some t => exact hgiven t rfl
  rcases h.fits with ⟨name, param, hraw, rfl, -⟩ | ⟨-, rfl, -⟩
  · obtain ⟨heq, hparam⟩ := hraw
    rw [heq] at hchosen
    exact hP.completed name param _ ⟨rfl, hparam⟩ hchosen (hP.boxed _ hdeclared)
  · exact hchosen

/-- All types from which the serializer is made have what the given types have. -/
theorem IsKept.types_of_resolve {depth : Nat} (hP : IsKept u P)
    (h : resolve u depth declared given = .ok b) (hdeclared : P declared)
    (hgiven : ∀ t, given = some t → P t) : ∀ t ∈ b.construction.types, P t := by
  rcases plain_or_serialized_of_resolve h with hplain | ⟨serializer, source, target, hserialized⟩
  · rw [hplain.construction]
    exact nofun
  · have hserializer := hP.of_isSerialized hserialized hdeclared hgiven
    have hoffered := hserialized.construction
    cases hconstruction : b.construction with
    | none => exact nofun
    | byDefault s =>
      rw [hconstruction] at hoffered
      cases hoffered
      exact List.forall_mem_singleton.mpr hserializer
    | fromToken s token =>
      rw [hconstruction] at hoffered
      cases hoffered
      exact List.forall_mem_cons.mpr
        ⟨hserializer, List.forall_mem_singleton.mpr (hP.boxed _ hdeclared)⟩

end Kept

/-- What is offered makes a serializer. -/
theorem IsOffered.ne_none {u : Universe} {declared serializer : TypeRef}
    {construction : Construction} (h : IsOffered u declared serializer construction) :
    construction ≠ .none := by
  cases h <;> nofun

/-- No binding is of both kinds. -/
theorem IsPlain.not_isSerialized {u : Universe} {declared serializer source target : TypeRef}
    {given : Option TypeRef} {b : Binding} (hplain : IsPlain u declared given b) :
    ¬ IsSerialized u declared given b serializer source target := fun hserialized =>
  hserialized.construction.ne_none hplain.construction

/-- **Every binding keeps what it promises**: it is for the declared type, the store gets values of
a kind that fits, and it is either plain or has a serializer with the capability, the arguments and
the constructor that it needs. -/
theorem resolve_exact {u : Universe} {depth : Nat} {declared : TypeRef} {given : Option TypeRef}
    {b : Binding} (h : resolve u depth declared given = .ok b) :
    b.declared = declared ∧ StoredKind.ofType? b.persisted = some b.kind ∧
      Xor (IsPlain u declared given b)
        (∃ serializer source target, IsSerialized u declared given b serializer source target) := by
  have exclusive : IsPlain u declared given b →
      ¬ ∃ serializer source target, IsSerialized u declared given b serializer source target := by
    rintro hplain ⟨serializer, source, target, hserialized⟩
    exact hplain.not_isSerialized hserialized
  cases given with
  | some given =>
    obtain ⟨hdeclared, hkind, hserialized⟩ := ofSerializer_sound (some given) nofun rfl h
    exact ⟨hdeclared, hkind, .inr ⟨hserialized, fun hplain => exclusive hplain hserialized⟩⟩
  | none =>
    rw [resolve] at h
    split at h
    · next henum =>
      obtain ⟨hdeclared, hkind, hserialized⟩ :=
        ofSerializer_sound none (fun _ => henum) rfl h
      exact ⟨hdeclared, hkind, .inr ⟨hserialized, fun hplain => exclusive hplain hserialized⟩⟩
    · next hnot =>
      obtain ⟨hdeclared, hkind, hplain⟩ := ofPlain_sound (Bool.eq_false_iff.mpr hnot) h
      exact ⟨hdeclared, hkind, .inl ⟨hplain, exclusive hplain⟩⟩

/-- A serializer of numbers that stores them as text and is made from a type token. -/
def numberSerializer : TypeDecl :=
  { name := "NumberSerializer"
    kind := .plain
    params := [⟨"N", [TypeRef.named Builtin.number]⟩]
    supertypes := [.declared Builtin.serializer [.variable "N", TypeRef.named Builtin.string]]
    constructors := [[.declared Builtin.typeToken [.variable "N"]]] }

/-- The binding of an integer that is stored by `numberSerializer`. -/
def numberBinding : Binding :=
  let completed := TypeRef.declared "NumberSerializer" [TypeRef.named "Integer"]
  { declared := .primitive .int
    exposed := .primitive .int
    persisted := TypeRef.named Builtin.string
    kind := .string
    construction := .fromToken completed (TypeRef.named "Integer")
    strategy := .explicit }

theorem resolve_exact_numberSerializer :
    ∃ u, builtin.declare? numberSerializer = some u ∧
      resolve u 5 (.primitive .int) (some (TypeRef.named "NumberSerializer")) =
        .ok numberBinding ∧
      Xor (IsPlain u (.primitive .int) (some (TypeRef.named "NumberSerializer")) numberBinding)
        (∃ serializer source target,
          IsSerialized u (.primitive .int) (some (TypeRef.named "NumberSerializer")) numberBinding
            serializer source target) := by
  have hfound : resolve ⟨builtin.decls.put "NumberSerializer" numberSerializer⟩ 5 (.primitive .int)
      (some (TypeRef.named "NumberSerializer")) = .ok numberBinding := by rfl
  exact ⟨_, rfl, hfound, (resolve_exact hfound).2.2⟩

end Binding

end TypedPrefs
