import TypedPrefs.Proofs.Types.Fitting

/-!
# Further declarations

A type that fits a universe without misfits only leads to names of that universe. So nothing that is
asked about it can see a declaration that comes later: the walks from it go through the same types
in the same order, in both universes, and enter the same printed forms.
-/

namespace TypedPrefs.Universe

variable {α : Type} {u u' : Universe} {t : TypeRef}

/-! ## Walks in two universes -/

/-- Two universes have the same supertypes for the types of a set, and the steps stay in the set. -/
structure AgreeOn (u u' : Universe) (types : Set TypeRef) : Prop where
  same : ∀ t ∈ types, u'.directSupertypes t = u.directSupertypes t
  closed : ∀ t ∈ types, ∀ s, u.Extends t s → s ∈ types

section Walks

variable {types : Set TypeRef} {skip : TypeRef → Bool} {answer? : TypeRef → Option (Option α)}

theorem firstAnswer_congr {walk walk' : List String → TypeRef → Trail α} {ts : List TypeRef}
    (h : ∀ t ∈ ts, ∀ entered, walk' entered t = walk entered t) (entered : List String) :
    firstAnswer walk' entered ts = firstAnswer walk entered ts := by
  induction ts generalizing entered with
  | nil => rfl
  | cons t rest ih =>
    rw [firstAnswer, firstAnswer, h t List.mem_cons_self]
    cases walk entered t with
    | none => rfl
    | some found =>
      obtain ⟨answer, after⟩ := found
      cases answer with
      | some a => rfl
      | none => exact ih (fun s hs => h s (List.mem_cons_of_mem _ hs)) after

/-- Entering a type makes no difference if its supertypes are the same and walked alike. -/
theorem AgreeOn.enter_congr (h : u.AgreeOn u' types)
    {walk walk' : List String → TypeRef → Trail α} (ht : t ∈ types)
    (hwalk : ∀ s ∈ types, ∀ entered, walk' entered s = walk entered s) (entered : List String) :
    u'.enter walk' skip entered t = u.enter walk skip entered t := by
  have hsupertypes : ∀ s ∈ (u.directSupertypes t).filter (!skip ·), ∀ entered,
      walk' entered s = walk entered s := by
    intro s hs
    exact hwalk s (h.closed t ht s (List.mem_filter.mp hs).1)
  rw [enter, enter, h.same t ht]
  split
  · rfl
  · exact firstAnswer_congr hsupertypes _

/-- Walks that answer for the same types at once are the same wherever the universes agree. The
induction is on the depth: a type that is not answered for is entered in both universes. -/
theorem AgreeOn.walk_congr (h : u.AgreeOn u' types)
    {walk walk' : Nat → List String → TypeRef → Trail α} (hwalk : u.Follows skip answer? walk)
    (hwalk' : u'.Follows skip answer? walk') (depth : Nat) :
    ∀ t ∈ types, ∀ entered, walk' depth entered t = walk depth entered t := by
  induction depth with
  | zero =>
    intro t _ entered
    rw [hwalk.limit, hwalk'.limit]
  | succ depth ih =>
    intro t ht entered
    cases hanswer : answer? t with
    | some answer => rw [hwalk.answered t answer hanswer, hwalk'.answered t answer hanswer]
    | none =>
      rw [hwalk.goesOn t hanswer, hwalk'.goesOn t hanswer]
      exact h.enter_congr ht ih entered

end Walks

section Answers

variable {types : Set TypeRef}

theorem AgreeOn.isSubtype?_eq (h : u.AgreeOn u' types) (ht : t ∈ types) (depth : Nat)
    (sup : TypeRef) : u'.isSubtype? depth t sup = u.isSubtype? depth t sup := by
  rw [isSubtype?, isSubtype?]
  rw [h.walk_congr (u.follows_subtypeWalk sup) (u'.follows_subtypeWalk sup) depth t ht]

theorem AgreeOn.isSubtypeOfAll?_eq (h : u.AgreeOn u' types) (ht : t ∈ types) (depth : Nat)
    (sups : List TypeRef) : u'.isSubtypeOfAll? depth t sups = u.isSubtypeOfAll? depth t sups := by
  induction sups with
  | nil => rfl
  | cons sup rest ih => rw [isSubtypeOfAll?, isSubtypeOfAll?, h.isSubtype?_eq ht, ih]

theorem AgreeOn.satisfiesBounds?_eq (h : u.AgreeOn u' types) (ht : t ∈ types) (depth : Nat)
    (p : TypeParam) : u'.satisfiesBounds? depth t p = u.satisfiesBounds? depth t p :=
  h.isSubtypeOfAll?_eq ht depth _

theorem AgreeOn.serializerArguments?_eq (h : u.AgreeOn u' types) (ht : t ∈ types) (depth : Nat) :
    u'.serializerArguments? depth t = u.serializerArguments? depth t := by
  rw [serializerArguments?, serializerArguments?]
  rw [h.walk_congr u.follows_serializerWalk u'.follows_serializerWalk depth t ht]

theorem AgreeOn.isEnum_eq (h : u.AgreeOn u' types) (ht : t ∈ types) : u'.isEnum t = u.isEnum t := by
  rw [isEnum, isEnum, h.same t ht]

end Answers

/-! ## A universe with more declarations -/

/-- A universe that is made without misfits, and one that has all of its declarations. -/
structure EnlargedBy (u u' : Universe) : Prop where
  made : u.IsMade
  noMisfits : u.NoMisfits
  within : ∀ name d, u.get? name = some d → u'.get? name = some d

/-- A name that is not taken can be declared, and the other declarations stay. -/
theorem exists_declare (hmade : u.IsMade) (hu : u.NoMisfits) {d : TypeDecl}
    (hfree : u.contains d.name = false) : ∃ u', u.declare? d = some u' ∧ u.EnlargedBy u' := by
  have hdeclare : u.declare? d = some ⟨u.decls.put d.name d⟩ :=
    declare?_eq_some_iff.mpr ⟨hfree, rfl⟩
  exact ⟨_, hdeclare, hmade, hu, fun name e he => get?_of_declare? hdeclare he⟩

namespace EnlargedBy

theorem fits (h : u.EnlargedBy u') (ht : u.Fits t) : u'.Fits t := by
  intro name args hmem
  obtain ⟨d, hd, harity⟩ := ht name args hmem
  exact ⟨d, h.within name d hd, harity⟩

theorem directSupertypes_eq (h : u.EnlargedBy u') (ht : u.Fits t) :
    u'.directSupertypes t = u.directSupertypes t := by
  cases t with
  | declared name args =>
    obtain ⟨⟨d, hd, -⟩, -⟩ := fits_declared_iff.mp ht
    simp only [directSupertypes, hd, h.within name d hd]
  | _ => rfl

theorem constructorShape_eq (h : u.EnlargedBy u') (ht : u.Fits t) :
    u'.constructorShape t = u.constructorShape t := by
  cases t with
  | declared name args =>
    obtain ⟨⟨d, hd, -⟩, -⟩ := fits_declared_iff.mp ht
    simp only [constructorShape, TypeRef.declaredName?, Option.bind_some, hd, h.within name d hd]
  | _ => rfl

/-- The types that fit are not left, and their supertypes are the same with more declarations. -/
theorem agreeOn (h : u.EnlargedBy u') : u.AgreeOn u' {t | u.Fits t} where
  same _ ht := h.directSupertypes_eq ht
  closed _ ht _ hs := ht.of_extends h.noMisfits h.made hs

end EnlargedBy

end TypedPrefs.Universe
