import TypedPrefs.Proofs.Blueprint.ProblemPlaces
import TypedPrefs.Proofs.Types.Flow
import TypedPrefs.Proofs.Types.Search
import TypedPrefs.Persist.Binding

/-!
# How enums are stored

An enum that extends `Enum` only without saying so has `Enum` of itself behind all of its other
supertypes. The bound of the built-in serializer of enums asks for just this supertype. The walk to
it may enter many types before; what it has entered does not count, since a type is compared before
it is looked up among those entered. So the bound is found to hold as soon as the walk ends, and no
enum of this kind needs a serializer of its own.
-/

namespace TypedPrefs

variable {u : Universe} {d : TypeDecl} {name : String} {args : List TypeRef} {t : TypeRef}

/-! ## The supertype of an enum -/

/-- Parameters that differ become the arguments at their positions. -/
theorem TypeRef.map_substitute_variables {params : List String} (hnodup : params.Nodup)
    (hlength : args.length = params.length) :
    (params.map TypeRef.variable).map (TypeRef.substitute params args) = args := by
  refine List.ext_getElem (by simp [hlength]) fun i hi hi' => ?_
  have hfirst : params.idxOf? params[i] = some i :=
    List.idxOf?_eq_some_iff.mpr ⟨by omega, rfl, fun j hj heq => by
      have hij := hnodup.getElem_inj_iff.mp heq
      omega⟩
  simpa using TypeRef.substitute_variable hfirst (List.getElem?_eq_getElem hi')

/-- A type with its own parameters becomes the type with the arguments in their places. -/
theorem TypeDecl.substitute_selfType (hnodup : d.paramNames.Nodup)
    (hlength : args.length = d.params.length) :
    d.selfType.substitute d.paramNames args = .declared d.name args := by
  rw [selfType, TypeRef.substitute_declared, TypeRef.map_substitute_variables hnodup]
  rw [hlength, paramNames, List.length_map]

namespace Universe

/-- An enum extends `Enum` of itself if it does not say otherwise. -/
theorem extends_enum_self (hd : u.get? name = some d) (hname : d.name = name)
    (hkind : d.kind = .enum) (hsilent : ∀ p ∈ d.supertypes, p.hasName Builtin.enum = false)
    (hnodup : d.paramNames.Nodup) (hlength : args.length = d.params.length) :
    u.Extends (.declared name args) (.declared Builtin.enum [.declared name args]) := by
  have himplicit : .declared Builtin.enum [d.selfType] ∈ d.allSupertypes := by
    have hnone : d.supertypes.any (·.hasName Builtin.enum) = false := by
      simpa using hsilent
    rw [TypeDecl.allSupertypes, hkind, hnone]
    exact List.mem_append_right _ List.mem_cons_self
  refine (extends_declared hd).mpr ⟨_, himplicit, ?_⟩
  rw [TypeRef.substitute_declared, List.map_singleton, TypeDecl.substitute_selfType hnodup hlength,
    hname]

/-! ## A walk to a direct supertype -/

/-- A walk over a list answers if one of its types is always answered for. -/
theorem firstAnswer_isSome {α : Type} {walk : List String → TypeRef → Trail α}
    {ts : List TypeRef} {entered after : List String} {answer : Option α} (ht : t ∈ ts)
    (hwalk : ∀ before answer after, walk before t = some (answer, after) → answer.isSome = true)
    (h : firstAnswer walk entered ts = some (answer, after)) : answer.isSome = true := by
  induction ts generalizing entered with
  | nil => cases ht
  | cons s rest ih =>
    rw [firstAnswer] at h
    split at h
    · cases h
    · cases h
      rfl
    · next middle hnone =>
      rcases List.mem_cons.mp ht with rfl | ht
      · cases hwalk _ _ _ hnone
      · exact ih ht h

/-- Whatever is entered on the way, a walk that ends has found the direct supertypes. -/
theorem isSubtype?_of_extends {depth : Nat} {sup : TypeRef} {answer : Bool}
    (hstep : u.Extends t sup) (h : u.isSubtype? depth t sup = some answer) : answer = true := by
  have hfollows := u.follows_subtypeWalk sup
  have hself : subtypeAnswer? sup sup = some (some ()) := if_pos rfl
  obtain ⟨⟨found, after⟩, hwalk, rfl⟩ := Option.map_eq_some_iff.mp h
  cases depth with
  | zero => cases hwalk
  | succ depth =>
    cases hanswer : subtypeAnswer? sup t with
    | some answer =>
      rw [hfollows.answered t answer hanswer] at hwalk
      cases hwalk
      cases found with
      | some _ => rfl
      | none => exact absurd hstep (not_extends_of_subtypeAnswer? hanswer)
    | none =>
      rw [hfollows.goesOn t hanswer, enter, if_neg (by simp)] at hwalk
      refine firstAnswer_isSome (List.mem_filter.mpr ⟨hstep, rfl⟩) ?_ hwalk
      intro before answer after hsup
      cases depth with
      | zero => cases hsup
      | succ depth =>
        rw [hfollows.answered sup _ hself] at hsup
        cases hsup
        rfl

/-- A type satisfies a bound if it extends it directly, in as many steps as its walk takes to end.
-/
theorem satisfiesBounds?_of_extends {p : TypeParam} {bound : TypeRef} (hbounds : p.bounds = [bound])
    (hstep : u.Extends t (bound.substitute [p.name] [t])) (hfinite : {s | u.Reaches t s}.Finite)
    {depth : Nat} (hdepth : hfinite.toFinset.card < depth) :
    u.satisfiesBounds? depth t p = some true := by
  obtain ⟨answer, hanswer⟩ := exists_isSubtype? hfinite (bound.substitute [p.name] [t])
  obtain rfl := isSubtype?_of_extends hstep (hanswer depth hdepth)
  simp only [satisfiesBounds?, hbounds, List.map_singleton, isSubtypeOfAll?, hanswer depth hdepth]

/-! ## The serializer of enums -/

theorem IsMade.get?_enumSerializer (hmade : u.IsMade) :
    u.get? Builtin.enumSerializer = some enumSerializer := hmade.get?_builtin rfl

/-- The serializer of enums has the enum and strings as its exposed and its stored type. -/
theorem IsMade.serializerArguments?_enumSerializer (hmade : u.IsMade) (t : TypeRef) (depth : Nat) :
    u.serializerArguments? (depth + 2) (.declared Builtin.enumSerializer [t]) =
      some (some (t, TypeRef.named Builtin.string)) := by
  have hsupertypes : u.directSupertypes (.declared Builtin.enumSerializer [t]) =
      [.declared Builtin.serializer [t, TypeRef.named Builtin.string]] := by
    rw [directSupertypes, hmade.get?_enumSerializer]
    rfl
  have hfound : u.serializerWalk (depth + 2) [] (.declared Builtin.enumSerializer [t]) =
      some (some (.declared Builtin.serializer [t, TypeRef.named Builtin.string]),
        [(TypeRef.declared Builtin.enumSerializer [t]).display]) := by
    have hother : ¬ (TypeRef.declared Builtin.enumSerializer [t]).hasName Builtin.serializer := by
      simp [TypeRef.hasName, TypeRef.declaredName?, Builtin.serializer, Builtin.enumSerializer]
    rw [serializerWalk, if_neg hother, enter, if_neg (by simp), hsupertypes]
    rfl
  rw [serializerArguments?, hfound]
  rfl

end Universe

namespace TypeRef

/-- Only built-in types are wrapper types. -/
theorem unboxed_eq_self (h : Universe.builtin.contains name = false) :
    (declared name args).unboxed = .declared name args := by
  cases args with
  | cons a rest => rfl
  | nil =>
    rw [unboxed]
    cases hkind : PrimitiveKind.ofBoxedName? name with
    | none => rfl
    | some kind =>
      obtain rfl : kind.boxedName = name := by simpa using List.find?_some hkind
      have hbuiltin : Universe.builtin.contains kind.boxedName = true := by
        cases kind <;> decide
      rw [h] at hbuiltin
      cases hbuiltin

end TypeRef

namespace Binding

open Universe

/-- How the values of an enum are stored: under their names, by the built-in serializer. -/
def ofEnum (t : TypeRef) : Binding :=
  { declared := t
    exposed := t
    persisted := TypeRef.named Builtin.string
    kind := .string
    construction := .fromToken (.declared Builtin.enumSerializer [t]) t
    strategy := .implicitEnum }

/-- A type that extends `Enum` of itself is stored by the built-in serializer. -/
theorem resolve_eq_ofEnum (hmade : u.IsMade)
    (hstep : u.Extends t (.declared Builtin.enum [t])) (hclosed : t.containsVariable = false)
    (hunboxed : t.unboxed = t) (hfinite : {s | u.Reaches t s}.Finite) {depth : Nat}
    (hdepth : hfinite.toFinset.card + 1 < depth) : resolve u depth t none = .ok (ofEnum t) := by
  have hboxed : t.boxed = t := by
    obtain ⟨name, args, -, rfl, -⟩ := hstep.source
    rfl
  have henum : u.isEnum t = true := List.any_eq_true.mpr ⟨_, hstep, beq_self_eq_true _⟩
  have hserializer : instantiate u depth t (.named Builtin.enumSerializer) =
      .ok (.declared Builtin.enumSerializer [t]) := by
    have hbounds : u.satisfiesBounds? depth t ⟨"T", [.declared Builtin.enum [.variable "T"]]⟩ =
        some true := satisfiesBounds?_of_extends rfl hstep hfinite (by omega)
    simp only [instantiate, TypeRef.named, hmade.get?_enumSerializer, enumSerializer, hboxed,
      hbounds]
  have hcapability : capability u depth (.declared Builtin.enumSerializer [t]) =
      .ok (t, .named Builtin.string) := by
    obtain ⟨depth, rfl⟩ := Nat.exists_eq_add_of_le' (show 2 ≤ depth by omega)
    rw [capability, hmade.serializerArguments?_enumSerializer]
    simp [hclosed, TypeRef.named, TypeRef.containsVariable, TypeRef.containsVariableList]
  have hcompatible : checkCompatible u depth t (.named Builtin.enumSerializer)
      (.declared Builtin.enumSerializer [t]) t = .ok () := if_pos (by simp [TypeRef.named])
  have hconstruction : constructionOf u t (.declared Builtin.enumSerializer [t]) =
      .ok (.fromToken (.declared Builtin.enumSerializer [t]) t) := by
    have hshape : u.constructorShape (.declared Builtin.enumSerializer [t]) = .typeToken := by
      simp only [constructorShape, TypeRef.declaredName?, Option.bind_some,
        hmade.get?_enumSerializer]
      rfl
    rw [constructionOf, hshape, hboxed]
  rw [resolve, if_pos henum]
  refine bind_eq_ok_iff.mpr ⟨_, hserializer, bind_eq_ok_iff.mpr ⟨_, hcapability, ?_⟩⟩
  refine bind_eq_ok_iff.mpr ⟨_, hcompatible, bind_eq_ok_iff.mpr ⟨_, hconstruction, ?_⟩⟩
  rw [hunboxed]
  rfl

end Binding

namespace Blueprint

open Declaration

variable {types : List TypeSection} {s : TypeSection}

/-- **Enums need no serializer.** If nothing is wrong with the types of a declaration, an enum among
them that does not extend `Enum` in its own way, and whose parameters differ, is stored by the
built-in serializer whatever its arguments are, as soon as walks from it end. -/
theorem enums_resolve (hsilent : (universeOf types).2 = []) (hs : s ∈ types)
    (hkind : s.kind = .enum) :
    ∃ d, typeDecl s = .ok d ∧ (universeOf types).1.get? s.name = some d ∧
      (d.paramNames.Nodup → (∀ p ∈ d.supertypes, p.hasName Builtin.enum = false) →
        ∀ args, args.length = d.params.length →
          (TypeRef.declared s.name args).containsVariable = false →
          {r | (universeOf types).1.Reaches (.declared s.name args) r}.Finite →
          ∃ bound, ∀ depth, bound < depth →
            Binding.resolve (universeOf types).1 depth (.declared s.name args) none =
              .ok (Binding.ofEnum (.declared s.name args))) := by
  obtain ⟨i, hi⟩ := List.mem_iff_getElem?.mp hs
  obtain ⟨d, hd, hcontributes⟩ := contributes_of_silent (List.append_eq_nil_iff.mp hsilent).1 hi
  have hname : d.name = s.name := name_of_typeDecl hd
  have hfree : Universe.builtin.contains s.name = false := hname ▸ hcontributes.free
  have hget : (universeOf types).1.get? s.name = some d :=
    (get?_addTypes 0 types .builtin).mpr (.inr ⟨i, hcontributes, hname⟩)
  refine ⟨d, hd, hget, fun hnodup hnone args hlength hclosed hfinite => ?_⟩
  have hstep := Universe.extends_enum_self hget hname
    ((kind_of_typeDecl hd).trans hkind) hnone hnodup hlength
  exact ⟨hfinite.toFinset.card + 1, fun depth hdepth =>
    Binding.resolve_eq_ofEnum (isMade_universeOf types) hstep hclosed
      (TypeRef.unboxed_eq_self hfree) hfinite hdepth⟩

/-- An enum with a parameter and a supertype, for strings. -/
theorem enums_resolve_choice :
    let types : List TypeSection := [{ name := "Labeled", kind := .interface },
      { name := "Choice", kind := .enum, params := ["T"], supertypes := ["Labeled"] }]
    let t : TypeRef := .declared "Choice" [.named Builtin.string]
    (universeOf types).2 = [] ∧ {r | (universeOf types).1.Reaches t r}.Finite ∧
      ∃ bound, ∀ depth, bound < depth →
        Binding.resolve (universeOf types).1 depth t none = .ok (Binding.ofEnum t) := by
  intro types t
  have hsilent : (universeOf types).2 = [] := by decide +kernel
  have hfinite : {r | (universeOf types).1.Reaches t r}.Finite := by
    have hsupertypes : (universeOf types).1.directSupertypes t =
        [.named "Labeled", .declared Builtin.enum [t]] := by decide +kernel
    have htop : ∀ r ∈ [TypeRef.named "Labeled", .declared Builtin.enum [t]],
        (universeOf types).1.directSupertypes r = [] := by decide +kernel
    refine (List.finite_toSet [t, .named "Labeled", .declared Builtin.enum [t]]).subset ?_
    intro r hr
    induction hr with
    | refl => exact List.mem_cons_self
    | tail _ hstep ih =>
      rcases List.mem_cons.mp ih with rfl | ih
      · exact List.mem_cons_of_mem _ (hsupertypes ▸ hstep)
      · rw [Universe.Extends, htop _ ih] at hstep
        cases hstep
  have hdecl : typeDecl
      { name := "Choice", kind := .enum, params := ["T"], supertypes := ["Labeled"] } =
        .ok ⟨"Choice", .enum, [⟨"T", []⟩], [.named "Labeled"], []⟩ := by decide +kernel
  obtain ⟨d, hd, -, hresolve⟩ :=
    enums_resolve hsilent (List.mem_cons_of_mem _ List.mem_cons_self) rfl
  obtain rfl := Except.ok.inj (hdecl.symm.trans hd)
  exact ⟨hsilent, hfinite, hresolve (by decide) (by decide) _ rfl (by decide) hfinite⟩

end Blueprint

end TypedPrefs
