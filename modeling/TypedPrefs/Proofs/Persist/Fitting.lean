import TypedPrefs.Generated.Class
import TypedPrefs.Proofs.Persist.Resolution
import TypedPrefs.Proofs.Types.Fitting

/-!
# Bindings name types that fit

Where all declarations fit, a binding for types that fit has only types that fit: those that callers
and the store see come from a capability that the serializer leads to, and those that make the
serializer come from the given ones. So generated code names no type that is not declared.
-/

namespace TypedPrefs.Binding

open Universe

variable {u : Universe} {declared serializer source target : TypeRef} {given : Option TypeRef}
  {b : Binding}

/-- Boxing and completion keep types that fit. A serializer is only completed if it has a single
parameter, so it gets as many arguments as it has parameters. -/
theorem isKept_fits (hmade : u.IsMade) : IsKept u u.Fits where
  enumSerializer := fits_named (hmade.get?_builtin rfl)
  boxed _ ht := hmade.fits_boxed ht
  completed name param t hraw _ ht := by
    obtain ⟨-, d, hd, hparams⟩ := hraw
    rw [fits_declared_iff]
    refine ⟨⟨d, hd, .inr ?_⟩, List.forall_mem_singleton.mpr ht⟩
    simp [hparams]

/-- The two types of the capability fit, as the serializer leads to it. -/
theorem IsSerialized.capability_fits (hmade : u.IsMade) (hu : u.NoMisfits)
    (h : IsSerialized u declared given b serializer source target) (hdeclared : u.Fits declared)
    (hgiven : ∀ s, given = some s → u.Fits s) : u.Fits source ∧ u.Fits target := by
  have hserializer : u.Fits serializer := (isKept_fits hmade).of_isSerialized h hdeclared hgiven
  have hcapability := hserializer.of_reaches hu hmade h.capability
  obtain ⟨-, hargs⟩ := fits_declared_iff.mp hcapability
  exact ⟨hargs source (by simp), hargs target (by simp)⟩

/-- What callers and the store see fits. -/
theorem fits_of_resolve {depth : Nat} (hmade : u.IsMade) (hu : u.NoMisfits)
    (h : resolve u depth declared given = .ok b) (hdeclared : u.Fits declared)
    (hgiven : ∀ s, given = some s → u.Fits s) : u.Fits b.exposed ∧ u.Fits b.persisted := by
  rcases plain_or_serialized_of_resolve h with hplain | ⟨serializer, source, target, hserialized⟩
  · rw [hplain.exposed, hplain.persisted]
    exact ⟨hdeclared, hdeclared⟩
  · obtain ⟨hsource, htarget⟩ := hserialized.capability_fits hmade hu hdeclared hgiven
    rw [hserialized.exposed, hserialized.persisted]
    exact ⟨hsource.unboxed, htarget.unboxed⟩

theorem preferenceTypes_eq (p : Blueprint.Preference) :
    Generated.preferenceTypes p = p.binding.construction.types := by
  rw [Generated.preferenceTypes]
  cases p.binding.construction <;> rfl

theorem mem_types_of_serializer? {c : Construction} {s : TypeRef} (h : c.serializer? = some s) :
    s ∈ c.types := by
  cases c <;> cases h <;> exact List.mem_cons_self

/-- **Types stay within the universe.** Without misfits in the declarations, a type that fits leads
only to types that fit, over any number of supertypes. Every binding that is found for types that
fit is made of such types: the exposed and the stored one, the serializer and its type token. So
each name in a type that the code of a preference names is declared. -/
theorem resolve_stays_in_universe {depth : Nat} (hmade : u.IsMade) (hu : u.NoMisfits)
    (hdeclared : u.misfit? declared = none) (hgiven : ∀ s, given = some s → u.misfit? s = none) :
    (∀ t s, u.misfit? t = none → u.Reaches t s → u.misfit? s = none) ∧
      ∀ b, resolve u depth declared given = .ok b →
        u.misfit? b.exposed = none ∧ u.misfit? b.persisted = none ∧
        (∀ s, b.construction.serializer? = some s → u.misfit? s = none) ∧
        (∀ s token, b.construction = .fromToken s token → u.misfit? token = none) ∧
        ∀ p : Blueprint.Preference, p.binding = b → ∀ t ∈ Generated.preferenceTypes p,
          ∀ name args, .declared name args ∈ t.parts → u.contains name = true := by
  simp only [misfit?_eq_none_iff] at hdeclared hgiven ⊢
  refine ⟨fun t s ht hs => ht.of_reaches hu hmade hs, ?_⟩
  intro b h
  obtain ⟨hexposed, hpersisted⟩ := fits_of_resolve hmade hu h hdeclared hgiven
  have htypes : ∀ t ∈ b.construction.types, u.Fits t :=
    (isKept_fits hmade).types_of_resolve h hdeclared hgiven
  refine ⟨hexposed, hpersisted, ?_, ?_, ?_⟩
  · intro s hs
    exact htypes s (mem_types_of_serializer? hs)
  · intro s token hconstruction
    exact htypes token (by simp [hconstruction, Construction.types])
  · rintro p rfl t ht name args hmem
    rw [preferenceTypes_eq] at ht
    obtain ⟨d, hd, -⟩ := htypes t ht name args hmem
    rw [contains, SortedMap.contains, show u.decls.get? name = some d from hd]
    rfl

/-- The built-in types and the serializer of numbers. -/
def numberUniverse : Universe := builtin.extend [numberSerializer]

theorem isMade_numberUniverse : numberUniverse.IsMade :=
  have hdeclare : builtin.declareAll? [numberSerializer] = some numberUniverse := rfl
  IsMade.builtin.declareAll? hdeclare

theorem noMisfits_numberUniverse : numberUniverse.NoMisfits := by
  rw [NoMisfits, show numberUniverse.problems = [] by decide +kernel]
  exact nofun

theorem resolve_numberUniverse :
    resolve numberUniverse 5 (.primitive .int) (some (TypeRef.named "NumberSerializer")) =
      .ok numberBinding := by rfl

/-- A raw serializer of numbers is completed for integers, and all that comes of it is declared. -/
theorem resolve_stays_in_universe_numberSerializer :
    numberUniverse.IsMade ∧ numberUniverse.NoMisfits ∧
      numberUniverse.misfit? (.primitive .int) = none ∧
      numberUniverse.misfit? (TypeRef.named "NumberSerializer") = none ∧
      resolve numberUniverse 5 (.primitive .int) (some (TypeRef.named "NumberSerializer")) =
        .ok numberBinding ∧
      numberUniverse.misfit? (.declared "NumberSerializer" [TypeRef.named "Integer"]) = none ∧
      numberUniverse.misfit? (TypeRef.named "Integer") = none := by
  have hnamed : numberUniverse.misfit? (TypeRef.named "NumberSerializer") = none := by
    decide +kernel
  have hgiven : ∀ s, some (TypeRef.named "NumberSerializer") = some s →
      numberUniverse.misfit? s = none := by
    rintro s ⟨⟩
    exact hnamed
  obtain ⟨-, -, hserializer, htoken, -⟩ :=
    (resolve_stays_in_universe isMade_numberUniverse noMisfits_numberUniverse rfl hgiven).2 _
      resolve_numberUniverse
  exact ⟨isMade_numberUniverse, noMisfits_numberUniverse, rfl, hnamed, resolve_numberUniverse,
    hserializer _ rfl, htoken _ _ rfl⟩

end TypedPrefs.Binding
