import TypedPrefs.Proofs.Persist.Fitting
import TypedPrefs.Proofs.Types.Declaring

/-!
# Bindings and further declarations

A preference of a type that fits is stored in the same way, or refused for the same reason, whatever
is declared beside the types that it mentions.
-/

namespace TypedPrefs.Binding

open Universe

variable {u u' : Universe} {declared given serializer : TypeRef}

/-! ## The steps of a resolution -/

theorem instantiate_eq (h : u.EnlargedBy u') (depth : Nat)
    (hdeclared : u.Fits declared) (hgiven : u.Fits given) :
    instantiate u' depth declared given = instantiate u depth declared given := by
  cases given with
  | declared name args =>
    obtain ⟨⟨d, hd, -⟩, -⟩ := fits_declared_iff.mp hgiven
    have hbounds : ∀ p, u'.satisfiesBounds? depth declared.boxed p =
        u.satisfiesBounds? depth declared.boxed p :=
      h.agreeOn.satisfiesBounds?_eq (h.made.fits_boxed hdeclared) depth
    simp only [instantiate, hd, h.within name d hd, hbounds]
  | _ => rfl

theorem capability_eq (h : u.EnlargedBy u') (depth : Nat)
    (hserializer : u.Fits serializer) :
    capability u' depth serializer = capability u depth serializer := by
  rw [capability, capability, h.agreeOn.serializerArguments?_eq hserializer]

theorem checkCompatible_eq (h : u.EnlargedBy u') (depth : Nat)
    (hdeclared : u.Fits declared) (source : TypeRef) :
    checkCompatible u' depth declared given serializer source =
      checkCompatible u depth declared given serializer source := by
  rw [checkCompatible, checkCompatible,
    h.agreeOn.isSubtype?_eq (h.made.fits_boxed hdeclared)]

theorem constructionOf_eq (h : u.EnlargedBy u') (hserializer : u.Fits serializer) :
    constructionOf u' declared serializer = constructionOf u declared serializer := by
  rw [constructionOf, constructionOf, h.constructorShape_eq hserializer]

/-- A serializer that is completed or taken as it is fits if all is given that fits. -/
theorem fits_of_instantiate {depth : Nat} (hmade : u.IsMade)
    (h : instantiate u depth declared given = .ok serializer) (hdeclared : u.Fits declared)
    (hgiven : u.Fits given) : u.Fits serializer := by
  rcases instantiate_sound h with ⟨name, param, ⟨rfl, hraw⟩, rfl, -⟩ | ⟨-, rfl⟩
  · exact (isKept_fits hmade).completed name param _ ⟨rfl, hraw⟩ hgiven
      (hmade.fits_boxed hdeclared)
  · exact hgiven

/-- Each step sees only types that fit, so it goes as before, and then the next one does. -/
theorem ofSerializer_eq (h : u.EnlargedBy u') (depth : Nat)
    (strategy : Strategy) (hdeclared : u.Fits declared) (hgiven : u.Fits given) :
    ofSerializer u' depth strategy declared given =
      ofSerializer u depth strategy declared given := by
  rw [ofSerializer, ofSerializer, instantiate_eq h depth hdeclared hgiven]
  apply bind_congr_of_ok
  intro serializer hinstantiate
  have hserializer : u.Fits serializer := fits_of_instantiate h.made hinstantiate hdeclared hgiven
  rw [capability_eq h depth hserializer]
  apply bind_congr_of_ok
  rintro ⟨source, target⟩ -
  simp only [checkCompatible_eq h depth hdeclared, constructionOf_eq h hserializer]

/-! ## All questions -/

theorem resolve_eq (h : u.EnlargedBy u') (depth : Nat)
    (hdeclared : u.Fits declared) {given : Option TypeRef}
    (hgiven : ∀ s, given = some s → u.Fits s) :
    resolve u' depth declared given = resolve u depth declared given := by
  cases given with
  | some given => exact ofSerializer_eq h depth .explicit hdeclared (hgiven given rfl)
  | none =>
    have henum := (isKept_fits h.made).enumSerializer
    rw [resolve, resolve, h.agreeOn.isEnum_eq hdeclared,
      ofSerializer_eq h depth .implicitEnum hdeclared henum]

/-- **A further declaration changes no answer about types that did not mention it.** A name that is
not taken can be declared. Whatever is declared under it, and however deep walks go, all questions
about types that fit the universe before are answered as before: whether they fit, what their
subtypes and bounds are, what serializers they are, and how preferences of them are stored or why
they cannot be. -/
theorem declaration_changes_no_answer (hmade : u.IsMade) (hu : u.NoMisfits) {d : TypeDecl}
    (hfree : u.contains d.name = false) :
    ∃ u', u.declare? d = some u' ∧
      (∀ t, u.misfit? t = none →
        u'.misfit? t = u.misfit? t ∧ u'.isEnum t = u.isEnum t ∧
        u'.constructorShape t = u.constructorShape t ∧
        ∀ depth,
          u'.serializerArguments? depth t = u.serializerArguments? depth t ∧
          (∀ sup, u'.isSubtype? depth t sup = u.isSubtype? depth t sup) ∧
          ∀ p, u'.satisfiesBounds? depth t p = u.satisfiesBounds? depth t p) ∧
      ∀ declared given, u.misfit? declared = none →
        (∀ s, given = some s → u.misfit? s = none) →
        ∀ depth, resolve u' depth declared given = resolve u depth declared given := by
  obtain ⟨u', hdeclare, hlarger⟩ := exists_declare hmade hu hfree
  have hagree := hlarger.agreeOn
  refine ⟨u', hdeclare, ?_, ?_⟩
  · intro t hfit
    have ht : u.Fits t := misfit?_eq_none_iff.mp hfit
    have hfit' : u'.misfit? t = none := misfit?_eq_none_iff.mpr (hlarger.fits ht)
    refine ⟨hfit'.trans hfit.symm, hagree.isEnum_eq ht, hlarger.constructorShape_eq ht, ?_⟩
    intro depth
    exact ⟨hagree.serializerArguments?_eq ht depth, hagree.isSubtype?_eq ht depth,
      hagree.satisfiesBounds?_eq ht depth⟩
  · intro declared given hdeclared hgiven depth
    apply resolve_eq hlarger depth (misfit?_eq_none_iff.mp hdeclared)
    intro s hs
    exact misfit?_eq_none_iff.mp (hgiven s hs)

/-- A class that extends itself and something unknown. -/
def brokenClass : TypeDecl :=
  subclass "Broken" [TypeRef.named "Broken", .declared "Missing" [TypeRef.named "Broken"]]

/-- Numbers are stored by their serializer as before if a class is declared that makes no sense. -/
theorem declaration_changes_no_answer_brokenClass :
    numberUniverse.IsMade ∧ numberUniverse.NoMisfits ∧
      numberUniverse.contains brokenClass.name = false ∧
      numberUniverse.misfit? (TypeRef.named "NumberSerializer") = none ∧
      ∃ u, numberUniverse.declare? brokenClass = some u ∧
        resolve u 5 (.primitive .int) (some (TypeRef.named "NumberSerializer")) =
          .ok numberBinding := by
  have hfree : numberUniverse.contains brokenClass.name = false := by decide +kernel
  have hnamed : numberUniverse.misfit? (TypeRef.named "NumberSerializer") = none := by
    decide +kernel
  have hgiven : ∀ s, some (TypeRef.named "NumberSerializer") = some s →
      numberUniverse.misfit? s = none := by
    rintro s ⟨⟩
    exact hnamed
  obtain ⟨u, hdeclare, -, hresolve⟩ :=
    declaration_changes_no_answer isMade_numberUniverse noMisfits_numberUniverse hfree
  refine ⟨isMade_numberUniverse, noMisfits_numberUniverse, hfree, hnamed, u, hdeclare, ?_⟩
  exact (hresolve _ _ rfl hgiven 5).trans resolve_numberUniverse

end TypedPrefs.Binding
