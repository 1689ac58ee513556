import TypedPrefs.Proofs.Types.Answers

/-!
# Types that fit the universe

A type fits if every declared type in it is known and has an argument for each of its parameters, or
none at all. Supertypes are written once and filled in for every use of a declaration. Where all
that is written fits, so does everything that a type which fits leads to, over any number of
supertypes.
-/

namespace TypedPrefs.Universe

variable {u : Universe} {t : TypeRef} {name : String} {args : List TypeRef} {d : TypeDecl}

/-! ## Fitting -/

/-- Every declared type that occurs is known, with an argument for each parameter or with none. -/
def Fits (u : Universe) (t : TypeRef) : Prop :=
  ∀ name args, .declared name args ∈ t.parts →
    ∃ d, u.get? name = some d ∧ (args = [] ∨ args.length = d.params.length)

theorem fits_declared_iff :
    u.Fits (.declared name args) ↔
      (∃ d, u.get? name = some d ∧ (args = [] ∨ args.length = d.params.length)) ∧
        ∀ a ∈ args, u.Fits a := by
  constructor
  · intro h
    refine ⟨h name args (TypeRef.self_mem_parts _), ?_⟩
    intro a ha inner innerArgs hmem
    exact h inner innerArgs (TypeRef.mem_parts_trans hmem (TypeRef.mem_parts_of_mem_args ha))
  · rintro ⟨houter, hargs⟩ inner innerArgs hmem
    rcases List.mem_cons.mp (TypeRef.parts_eq _ ▸ hmem) with heq | hmem
    · obtain ⟨rfl, rfl⟩ := TypeRef.declared.inj heq
      exact houter
    · obtain ⟨a, ha, hmem⟩ := TypeRef.mem_innerParts_declared.mp hmem
      exact hargs a ha inner innerArgs hmem

@[simp] theorem fits_primitive (kind : PrimitiveKind) : u.Fits (.primitive kind) := by
  intro name args hmem
  simp [TypeRef.parts] at hmem

@[simp] theorem fits_void : u.Fits .void := by
  intro name args hmem
  simp [TypeRef.parts] at hmem

@[simp] theorem fits_variable (x : String) : u.Fits (.variable x) := by
  intro name args hmem
  simp [TypeRef.parts] at hmem

theorem misfitAmong?_eq_none_iff {ts : List TypeRef} :
    u.misfitAmong? ts = none ↔ ∀ t ∈ ts, u.misfit? t = none := by
  induction ts with
  | nil => simp [misfitAmong?]
  | cons t ts ih => cases ht : u.misfit? t <;> simp [misfitAmong?, ht, ih]

/-- The check of a type finds nothing wrong exactly if the type fits. -/
theorem misfit?_eq_none_iff : u.misfit? t = none ↔ u.Fits t := by
  induction t with
  | primitive kind => exact iff_of_true rfl (fits_primitive kind)
  | void => exact iff_of_true rfl fits_void
  | parameter x => exact iff_of_true rfl (fits_variable x)
  | declared name args ih =>
    have hargs : u.misfitAmong? args = none ↔ ∀ a ∈ args, u.Fits a :=
      misfitAmong?_eq_none_iff.trans (forall₂_congr ih)
    rw [fits_declared_iff, ← hargs, misfit?]
    cases hd : u.get? name with
    | none => simp
    | some d =>
      by_cases hempty : args = []
      · simp [hempty]
      · by_cases hlength : args.length = d.params.length <;> simp [hempty, hlength]

/-! ## Substitution -/

/-- References that fit take the places of variables without harm. -/
theorem Fits.instantiate {bindings : List (String × TypeRef)} (ht : u.Fits t)
    (hbindings : ∀ b ∈ bindings, u.Fits b.2) : u.Fits (t.instantiate bindings) := by
  induction t with
  | primitive kind => exact ht
  | void => exact ht
  | parameter x =>
    rw [TypeRef.instantiate]
    cases hx : bindings.lookup x with
    | none => exact ht
    | some a =>
      obtain ⟨before, after, heq, -⟩ := List.lookup_eq_some_iff.mp hx
      exact hbindings (x, a) (by simp [heq])
  | declared name args ih =>
    obtain ⟨⟨d, hd, harity⟩, hargs⟩ := fits_declared_iff.mp ht
    rw [TypeRef.instantiate_declared, fits_declared_iff]
    refine ⟨⟨d, hd, ?_⟩, ?_⟩
    · -- the number of arguments stays, so a raw use stays raw
      simpa using harity
    · intro a ha
      obtain ⟨b, hb, rfl⟩ := List.mem_map.mp ha
      exact ih b hb (hargs b hb)

theorem Fits.substitute {params : List String} (ht : u.Fits t) (hargs : ∀ a ∈ args, u.Fits a) :
    u.Fits (t.substitute params args) := by
  apply ht.instantiate
  intro b hb
  exact hargs b.2 (List.of_mem_zip hb).2

/-! ## Declarations that fit -/

/-- No declaration refers to a type that is unknown or has the wrong number of arguments. There may
be cycles. -/
def NoMisfits (u : Universe) : Prop := ∀ p ∈ u.problems, ∀ m, p.cause ≠ .misfit m

/-- What a declaration refers to fits. -/
theorem NoMisfits.fits_of_mem_references (hu : u.NoMisfits) (hd : u.get? name = some d)
    (ht : t ∈ d.references) : u.Fits t := by
  rw [← misfit?_eq_none_iff]
  cases hmisfit : u.misfit? t with
  | none => rfl
  | some m =>
    have hdecl : d ∈ u.decls.values :=
      List.mem_map_of_mem (f := Prod.snd) (Entries.mem_of_get? hd)
    have hproblem : ⟨d.name, .misfit m⟩ ∈ u.declProblems d :=
      List.mem_filterMap.mpr ⟨t, ht, by rw [hmisfit]; rfl⟩
    have hmem : ⟨d.name, .misfit m⟩ ∈ u.problems :=
      List.mem_append_left _ (List.mem_flatMap.mpr ⟨d, hdecl, hproblem⟩)
    exact absurd rfl (hu _ hmem m)

/-- A universe that is made keeps every declaration under the name that it declares. -/
theorem IsMade.name_eq (hmade : u.IsMade) (hd : u.get? name = some d) : d.name = name := by
  induction hmade with
  | builtin =>
    have hall : ∀ e ∈ Universe.builtin.decls.entries, e.2.name = e.1 := by decide +kernel
    exact hall _ (Entries.mem_of_get? hd)
  | declare e _ hdeclare ih =>
    obtain ⟨-, rfl⟩ := declare?_eq_some_iff.mp hdeclare
    rw [get?_put] at hd
    split at hd
    · next heq =>
      cases hd
      exact heq
    · exact ih hd

/-- A declared type without arguments fits as soon as its name is known. -/
theorem fits_named (hd : u.get? name = some d) : u.Fits (TypeRef.named name) :=
  fits_declared_iff.mpr ⟨⟨d, hd, .inl rfl⟩, nofun⟩

/-- A declaration is a type with its own parameters as arguments. -/
theorem IsMade.fits_selfType (hmade : u.IsMade) (hd : u.get? name = some d) :
    u.Fits d.selfType := by
  rw [TypeDecl.selfType, fits_declared_iff]
  refine ⟨⟨d, hmade.name_eq hd ▸ hd, .inr ?_⟩, ?_⟩
  · simp [TypeDecl.paramNames]
  · intro a ha
    obtain ⟨x, -, rfl⟩ := List.mem_map.mp ha
    exact fits_variable x

/-- Supertypes fit as they are written, also the one that an enum has without saying so. -/
theorem NoMisfits.fits_of_mem_allSupertypes (hu : u.NoMisfits) (hmade : u.IsMade)
    (hd : u.get? name = some d) (ht : t ∈ d.allSupertypes) : u.Fits t := by
  have hwritten : t ∈ d.supertypes → u.Fits t := by
    intro hmem
    apply hu.fits_of_mem_references hd
    simp [TypeDecl.references, hmem]
  rw [TypeDecl.allSupertypes] at ht
  split at ht
  · rcases List.mem_append.mp ht with ht | ht
    · exact hwritten ht
    · obtain rfl := List.mem_singleton.mp ht
      have henum : ∃ e, Universe.builtin.get? Builtin.enum = some e ∧ e.params.length = 1 :=
        ⟨_, rfl, rfl⟩
      obtain ⟨e, he, harity⟩ := henum
      rw [fits_declared_iff]
      exact ⟨⟨e, hmade.get?_builtin he, .inr harity.symm⟩,
        List.forall_mem_singleton.mpr (hmade.fits_selfType hd)⟩
  · exact hwritten ht

/-! ## What types that fit lead to -/

/-- One step keeps the fit: a written supertype fits, and so do the arguments that fill it in. -/
theorem Fits.of_extends {s : TypeRef} (ht : u.Fits t) (hu : u.NoMisfits) (hmade : u.IsMade)
    (hstep : u.Extends t s) : u.Fits s := by
  obtain ⟨name, args, d, rfl, hd, p, hp, rfl⟩ := hstep.exists_supertype
  obtain ⟨-, hargs⟩ := fits_declared_iff.mp ht
  exact (hu.fits_of_mem_allSupertypes hmade hd hp).substitute hargs

/-- Any number of steps keeps the fit. -/
theorem Fits.of_reaches {s : TypeRef} (ht : u.Fits t) (hu : u.NoMisfits) (hmade : u.IsMade)
    (hs : u.Reaches t s) : u.Fits s := by
  induction hs with
  | refl => exact ht
  | tail _ hstep ih => exact ih.of_extends hu hmade hstep

/-! ## Wrapper types -/

/-- Every primitive has a wrapper type. -/
theorem IsMade.fits_boxed (hmade : u.IsMade) (ht : u.Fits t) : u.Fits t.boxed := by
  cases t with
  | primitive kind =>
    have hd : Universe.builtin.get? kind.boxedName = some (wrapper kind) := by cases kind <;> rfl
    exact fits_named (hmade.get?_builtin hd)
  | _ => exact ht

theorem Fits.unboxed (ht : u.Fits t) : u.Fits t.unboxed := by
  rw [TypeRef.unboxed.eq_def]
  split
  · split
    · exact fits_primitive _
    · exact ht
  · exact ht

end TypedPrefs.Universe
