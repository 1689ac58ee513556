import TypedPrefs.Proofs.Persist.Fitting
import TypedPrefs.Proofs.Types.Problems

/-!
# Bounds of the parameters of a serializer

A serializer that is completed gets the declared type as its argument, and that type is checked
against the bounds of the parameter. Arguments that are written in the declaration are not: the
declared type is compared with the capability that they lead to, and nothing else. So bounds are met
exactly where written arguments meet them.
-/

namespace TypedPrefs

namespace Universe

/-- The arguments at the positions of the parameters are subtypes of their bounds, in which all
parameters are replaced by their arguments. -/
def MeetsBounds (u : Universe) (d : TypeDecl) (args : List TypeRef) : Prop :=
  ∀ p a, (p, a) ∈ d.params.zip args →
    ∀ bound ∈ p.bounds, u.IsSubtype a (bound.substitute d.paramNames args)

/-- A type without arguments has none to check. -/
theorem meetsBounds_nil (u : Universe) (d : TypeDecl) : u.MeetsBounds d [] := by
  intro p a hmem
  rw [List.zip_nil_right] at hmem
  cases hmem

/-- With a single parameter it is enough to check its bounds. -/
theorem meetsBounds_singleton {u : Universe} {d : TypeDecl} {param : TypeParam}
    (hparams : d.params = [param]) {t : TypeRef} :
    u.MeetsBounds d [t] ↔
      ∀ bound ∈ param.bounds, u.IsSubtype t (bound.substitute [param.name] [t]) := by
  simp [MeetsBounds, TypeDecl.paramNames, hparams]

end Universe

namespace Binding

open Universe

variable {u : Universe} {declared given serializer : TypeRef}

/-! ## Serializers of bindings -/

/-- What is offered is a way to make the serializer. -/
theorem IsOffered.serializer?_eq {construction : Construction}
    (h : IsOffered u declared serializer construction) :
    construction.serializer? = some serializer := by
  cases h <;> rfl

/-- A serializer that can be made is a declared type. -/
theorem IsOffered.exists_declared {construction : Construction}
    (h : IsOffered u declared serializer construction) :
    ∃ name args d, serializer = .declared name args ∧ u.get? name = some d := by
  have hdeclared : ∃ name d, serializer.declaredName? = some name ∧ u.get? name = some d := by
    cases h with
    | fromToken hname hd => exact ⟨_, _, hname, hd⟩
    | byDefault hname hd => exact ⟨_, _, hname, hd⟩
  obtain ⟨name, d, hname, hd⟩ := hdeclared
  cases serializer with
  | declared name' args =>
    cases hname
    exact ⟨name, args, d, rfl, hd⟩
  | _ => cases hname

/-- A completed serializer has a single parameter. It was given without arguments and got the
declared type, which satisfies the bounds. -/
theorem IsCompletion.exists_param (h : IsCompletion u declared given serializer) {name : String}
    {args : List TypeRef} {d : TypeDecl} (hserializer : serializer = .declared name args)
    (hd : u.get? name = some d) :
    given = .declared name [] ∧ args = [declared.boxed] ∧
      ∃ param, d.params = [param] ∧ ∀ bound ∈ param.bounds,
        u.IsSubtype declared.boxed (bound.substitute [param.name] [declared.boxed]) := by
  obtain ⟨name', param, ⟨hgiven, d', hd', hparams⟩, hcompleted, hbounds⟩ := h
  obtain ⟨rfl, rfl⟩ := TypeRef.declared.inj (hserializer.symm.trans hcompleted)
  obtain rfl : d = d' := Option.some.inj (hd.symm.trans hd')
  exact ⟨hgiven, rfl, param, hparams, hbounds⟩

/-- **When a serializer meets its bounds.** The serializer of a binding is a declared type, and its
arguments are subtypes of the bounds of its parameters exactly if this is so for the arguments that
are written in the declaration. There are none if it is chosen for an enum or given raw, and those
that are written are checked by nothing. -/
theorem serializer_bounds_iff {depth : Nat} {given : Option TypeRef} {b : Binding}
    (h : resolve u depth declared given = .ok b)
    (hserializer : b.construction.serializer? = some serializer) :
    ∃ name args d, serializer = .declared name args ∧ u.get? name = some d ∧
      (u.MeetsBounds d args ↔
        ∀ written, given = some (.declared name written) → written ≠ [] →
          u.MeetsBounds d written) := by
  rcases plain_or_serialized_of_resolve h with hplain | ⟨s, source, target, hserialized⟩
  · rw [hplain.construction] at hserializer
    cases hserializer
  obtain rfl : s = serializer :=
    Option.some.inj (hserialized.construction.serializer?_eq.symm.trans hserializer)
  obtain ⟨name, args, d, heq, hd⟩ := hserialized.construction.exists_declared
  refine ⟨name, args, d, heq, hd, ?_⟩
  rcases hserialized.fits with hcompletion | ⟨-, hchosen, -⟩
  · -- a raw serializer has no written arguments
    obtain ⟨hraw, rfl, param, hparams, hbounds⟩ := hcompletion.exists_param heq hd
    refine iff_of_true ((meetsBounds_singleton hparams).mpr hbounds) fun written hwritten hne => ?_
    rw [chosenSerializer, hwritten, Option.getD_some] at hraw
    exact absurd (TypeRef.declared.inj hraw).2 hne
  · rw [heq] at hchosen
    constructor
    · intro hmeets written hwritten _
      rw [chosenSerializer, hwritten, Option.getD_some] at hchosen
      rwa [← (TypeRef.declared.inj hchosen).2]
    · intro hwritten
      cases given with
      | none =>
        obtain ⟨-, rfl⟩ := TypeRef.declared.inj hchosen
        exact meetsBounds_nil u d
      | some t =>
        by_cases hempty : args = []
        · rw [hempty]
          exact meetsBounds_nil u d
        · exact hwritten args (congrArg some hchosen.symm) hempty

/-- A raw serializer of numbers meets its bound, as the declared type is a number. -/
theorem serializer_bounds_iff_numberSerializer :
    resolve numberUniverse 5 (.primitive .int) (some (TypeRef.named "NumberSerializer")) =
        .ok numberBinding ∧
      numberBinding.construction.serializer? =
        some (.declared "NumberSerializer" [TypeRef.named "Integer"]) ∧
      numberUniverse.MeetsBounds numberSerializer [TypeRef.named "Integer"] := by
  obtain ⟨name, args, d, heq, hd, hiff⟩ := serializer_bounds_iff resolve_numberUniverse rfl
  obtain ⟨rfl, rfl⟩ := TypeRef.declared.inj heq
  obtain rfl : numberSerializer = d := Option.some.inj hd
  refine ⟨resolve_numberUniverse, rfl, hiff.mpr fun written hwritten hne => ?_⟩
  obtain ⟨-, rfl⟩ := TypeRef.declared.inj (Option.some.inj hwritten)
  exact absurd rfl hne

/-- The serializer of enums, written for text, which is no enum. -/
def enumSerializerOfText : TypeRef :=
  .declared Builtin.enumSerializer [TypeRef.named Builtin.string]

/-- A text gets a serializer that is only there for enums, and nothing is reported. -/
theorem serializer_bounds_enumSerializerOfText :
    ∃ b, builtin.IsMade ∧ builtin.NoMisfits ∧
      builtin.misfit? (TypeRef.named Builtin.string) = none ∧
      builtin.misfit? enumSerializerOfText = none ∧
      resolve builtin 5 (TypeRef.named Builtin.string) (some enumSerializerOfText) = .ok b ∧
      b.construction.serializer? = some enumSerializerOfText ∧
      builtin.get? Builtin.enumSerializer = some Universe.enumSerializer ∧
      ¬ builtin.MeetsBounds Universe.enumSerializer [TypeRef.named Builtin.string] := by
  refine ⟨_, .builtin, noMisfits_builtin, rfl, rfl, rfl, rfl, rfl, fun hmeets => ?_⟩
  have hsub := (meetsBounds_singleton rfl).mp hmeets _ List.mem_cons_self
  rcases hsub with heq | ⟨hobject, -⟩ | hreach
  · exact absurd heq (by decide)
  · exact absurd hobject (by decide)
  · -- text has no supertypes
    obtain ⟨s, hstep, -⟩ := Relation.TransGen.head'_iff.mp hreach
    have hempty : builtin.directSupertypes (TypeRef.named Builtin.string) = [] := rfl
    rw [Extends, hempty] at hstep
    cases hstep

end Binding

end TypedPrefs
