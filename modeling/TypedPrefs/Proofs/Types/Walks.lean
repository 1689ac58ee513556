import TypedPrefs.Proofs.Types.Supertypes

/-!
# Walks

Both walks over supertypes are one search with different targets. What a walk finds is reached, and
it finds the same with more depth.
-/

namespace TypedPrefs.Universe

open Relation

/-- What all walks have in common: a type is either answered for at once, or it is entered and its
direct supertypes are walked from, with one level less. -/
structure IsWalk {α : Type} (u : Universe) (skip : TypeRef → Bool)
    (walk : Nat → List String → TypeRef → Trail α) : Prop where
  limit : ∀ entered t, walk 0 entered t = none
  step : ∀ t,
    (∃ answer, ∀ depth entered, walk (depth + 1) entered t = some (answer, entered)) ∨
      ∀ depth entered, walk (depth + 1) entered t = u.enter (walk depth) skip entered t

/-- A walk to a type answers at once for that type and for all types without supertypes. -/
theorem isWalk_subtypeWalk (u : Universe) (sup : TypeRef) :
    u.IsWalk (fun _ => false) (u.subtypeWalk sup) where
  limit _ _ := rfl
  step t := by
    by_cases heq : t = sup
    · exact .inl ⟨some (), fun depth entered => by simp only [subtypeWalk, if_pos heq]⟩
    · cases t with
      | declared name args =>
        by_cases hobject : isObject sup = true
        · refine .inl ⟨some (), fun depth entered => ?_⟩
          simp only [subtypeWalk, if_neg heq, if_pos hobject]
        · refine .inr fun depth entered => ?_
          simp only [subtypeWalk, if_neg heq, if_neg hobject]
      | _ => exact .inl ⟨_, fun depth entered => by simp only [subtypeWalk, if_neg heq]; rfl⟩

theorem isWalk_serializerWalk (u : Universe) : u.IsWalk isObject u.serializerWalk where
  limit _ _ := rfl
  step t := by
    by_cases hname : t.hasName Builtin.serializer = true
    · exact .inl ⟨some t, fun depth entered => by rw [serializerWalk, if_pos hname]⟩
    · exact .inr fun depth entered => by rw [serializerWalk, if_neg hname]

variable {α : Type} {u : Universe} {skip : TypeRef → Bool}
variable {walk walk' : List String → TypeRef → Trail α} {entered : List String}

/-! ## What walks find -/

/-- An answer is the answer of the walk from one of the types. -/
theorem firstAnswer_sound {after : List String} {ts : List TypeRef} {a : α}
    (h : firstAnswer walk entered ts = some (some a, after)) :
    ∃ t ∈ ts, ∃ before after', walk before t = some (some a, after') := by
  induction ts generalizing entered with
  | nil => simp [firstAnswer] at h
  | cons t rest ih =>
    rw [firstAnswer] at h
    split at h
    · cases h
    · next b entered' hwalk =>
      cases h
      exact ⟨t, List.mem_cons_self, entered, after, hwalk⟩
    · obtain ⟨s, hs, hfound⟩ := ih h
      exact ⟨s, List.mem_cons_of_mem _ hs, hfound⟩

/-- An answer from a type that is entered comes from a direct supertype. -/
theorem enter_sound {after : List String} {t : TypeRef} {a : α}
    (h : u.enter walk skip entered t = some (some a, after)) :
    ∃ s, u.Extends t s ∧ ∃ before after', walk before s = some (some a, after') := by
  rw [enter] at h
  split at h
  · cases h
  · obtain ⟨s, hs, hfound⟩ := firstAnswer_sound h
    exact ⟨s, (List.mem_filter.mp hs).1, hfound⟩

/-- What a walk finds is the answer of a type that is reached, where no further step is needed. -/
theorem IsWalk.exists_reached {walk : Nat → List String → TypeRef → Trail α}
    (hwalk : u.IsWalk skip walk) {depth : Nat} {after : List String} {t : TypeRef} {a : α}
    (h : walk depth entered t = some (some a, after)) :
    ∃ s, u.Reaches t s ∧ walk 1 [] s = some (some a, []) := by
  induction depth generalizing entered t after with
  | zero =>
    rw [hwalk.limit] at h
    cases h
  | succ depth ih =>
    rcases hwalk.step t with ⟨answer, hanswer⟩ | henter
    · refine ⟨t, .refl, ?_⟩
      rw [hanswer] at h ⊢
      cases h
      rfl
    · rw [henter] at h
      obtain ⟨s, hs, before, after', hfound⟩ := enter_sound h
      obtain ⟨r, hr, hone⟩ := ih hfound
      exact ⟨r, hr.head hs, hone⟩

/-- A walk to a type answers at once only for subtypes that are told by themselves. -/
theorem isSubtype_of_subtypeWalk_one {t sup : TypeRef} {after : List String}
    (h : u.subtypeWalk sup 1 entered t = some (some (), after)) : u.IsSubtype t sup := by
  by_cases heq : t = sup
  · exact .inl heq
  · by_cases hobject : isObject sup = true
    · cases t with
      | declared name args => exact .inr (.inl ⟨hobject, rfl⟩)
      | «variable» name => exact .inr (.inl ⟨hobject, rfl⟩)
      | _ => simp [subtypeWalk, heq] at h
    · cases t with
      | declared name args =>
        simp only [subtypeWalk, if_neg heq, if_neg hobject] at h
        obtain ⟨s, -, before, after', hfound⟩ := enter_sound h
        cases hfound
      | _ => simp [subtypeWalk, heq, hobject] at h

theorem isSubtype_of_isSubtype? {depth : Nat} {a b : TypeRef}
    (h : u.isSubtype? depth a b = some true) : u.IsSubtype a b := by
  obtain ⟨⟨answer, after⟩, hwalk, hanswer⟩ := Option.map_eq_some_iff.mp h
  obtain ⟨⟨⟩, rfl⟩ := Option.isSome_iff_exists.mp hanswer
  obtain ⟨s, hreach, hone⟩ := (u.isWalk_subtypeWalk b).exists_reached hwalk
  exact .of_reaches hreach (isSubtype_of_subtypeWalk_one hone)

theorem isSubtype_of_isSubtypeOfAll? {depth : Nat} {t : TypeRef} {sups : List TypeRef}
    (h : u.isSubtypeOfAll? depth t sups = some true) : ∀ sup ∈ sups, u.IsSubtype t sup := by
  induction sups with
  | nil => simp
  | cons sup rest ih =>
    rw [isSubtypeOfAll?] at h
    split at h
    · next hsup =>
      intro s hs
      rcases List.mem_cons.mp hs with rfl | hs
      · exact isSubtype_of_isSubtype? hsup
      · exact ih h s hs
    · next hno => exact absurd h hno

/-- A type that satisfies the bounds of a parameter is a subtype of each of them. -/
theorem isSubtype_of_satisfiesBounds? {depth : Nat} {t : TypeRef} {p : TypeParam}
    (h : u.satisfiesBounds? depth t p = some true) :
    ∀ bound ∈ p.bounds, u.IsSubtype t (bound.substitute [p.name] [t]) := fun _ hbound =>
  isSubtype_of_isSubtypeOfAll? h _ (List.mem_map_of_mem hbound)

/-- A walk to a serializer capability answers at once only for such a capability. -/
theorem eq_of_serializerWalk_one {t found : TypeRef} {after : List String}
    (h : u.serializerWalk 1 entered t = some (some found, after)) :
    t = found ∧ found.hasName Builtin.serializer = true := by
  rw [serializerWalk] at h
  split at h
  · next hname =>
    cases h
    exact ⟨rfl, hname⟩
  · obtain ⟨s, -, before, after', hfound⟩ := enter_sound h
    cases hfound

/-- The arguments that are found are those of a capability that the serializer extends. -/
theorem reaches_of_serializerArguments? {depth : Nat} {t source target : TypeRef}
    (h : u.serializerArguments? depth t = some (some (source, target))) :
    u.Reaches t (.declared Builtin.serializer [source, target]) := by
  obtain ⟨⟨answer, after⟩, hwalk, hargs⟩ := Option.map_eq_some_iff.mp h
  cases answer with
  | none => cases hargs
  | some found =>
    obtain ⟨s, hreach, hone⟩ := u.isWalk_serializerWalk.exists_reached hwalk
    obtain ⟨rfl, hname⟩ := eq_of_serializerWalk_one hone
    cases s with
    | declared name args =>
      obtain rfl : name = Builtin.serializer := by
        simpa [TypeRef.hasName, TypeRef.declaredName?] using hname
      simp only [Option.map_some, TypeRef.args] at hargs
      split at hargs
      · next heq =>
        cases hargs
        cases heq
        exact hreach
      · cases hargs
    | _ => cases hname

/-! ## Deeper walks -/

/-- A walk that finds all that another finds gives the same first answer. -/
theorem firstAnswer_of_imp (h : ∀ entered t r, walk entered t = some r → walk' entered t = some r)
    {ts : List TypeRef} {r : Option α × List String} (hr : firstAnswer walk entered ts = some r) :
    firstAnswer walk' entered ts = some r := by
  induction ts generalizing entered with
  | nil => exact hr
  | cons s rest ih =>
    rw [firstAnswer] at hr ⊢
    cases hwalk : walk entered s with
    | none => simp [hwalk] at hr
    | some found =>
      obtain ⟨answer, after⟩ := found
      rw [h _ _ _ hwalk]
      cases answer with
      | none =>
        simp only [hwalk] at hr
        exact ih hr
      | some a => simpa only [hwalk] using hr

theorem enter_of_imp (h : ∀ entered t r, walk entered t = some r → walk' entered t = some r)
    {t : TypeRef} {r : Option α × List String} (hr : u.enter walk skip entered t = some r) :
    u.enter walk' skip entered t = some r := by
  rw [enter] at hr ⊢
  split at hr
  · next hentered => rwa [if_pos hentered]
  · next hentered =>
    rw [if_neg hentered]
    exact firstAnswer_of_imp h hr

/-- What a walk finds it also finds with one more level. -/
theorem IsWalk.succ {walk : Nat → List String → TypeRef → Trail α} (hwalk : u.IsWalk skip walk)
    {depth : Nat} {t : TypeRef} {r : Option α × List String} (h : walk depth entered t = some r) :
    walk (depth + 1) entered t = some r := by
  induction depth generalizing entered t r with
  | zero =>
    rw [hwalk.limit] at h
    cases h
  | succ depth ih =>
    rcases hwalk.step t with ⟨answer, hanswer⟩ | henter
    · rw [hanswer] at h ⊢
      exact h
    · rw [henter] at h ⊢
      exact enter_of_imp (fun _ _ _ => ih) h

/-- The answer of a walk does not depend on its depth. -/
theorem IsWalk.mono {walk : Nat → List String → TypeRef → Trail α} (hwalk : u.IsWalk skip walk)
    {depth depth' : Nat} (hle : depth ≤ depth') {t : TypeRef} {r : Option α × List String}
    (h : walk depth entered t = some r) : walk depth' entered t = some r := by
  induction hle with
  | refl => exact h
  | step _ ih => exact hwalk.succ ih

end TypedPrefs.Universe
