import Mathlib.Data.List.Forall2
import TypedPrefs.Proofs.Blueprint.Checked

/-!
# Nothing that is declared gets lost

Checking a declaration drops what is wrong and goes on. The main statement says that a dropped
group or preference always leaves an error at its own place behind: with no error at all, the class
has every declared group and every group has all of its preferences, in the order of declaration.

A `Selection` is the shape of every loop of the builder. The lemmas about one loop say that it
selects, and the last theorem reads the selections of both loops.
-/

namespace TypedPrefs.Blueprint

open Declaration Naming

/-! ## Errors at a place -/

/-- There is an error at a place. -/
def ErrorAt (ds : List Diagnostic) (l : Location) : Prop :=
  ∃ e ∈ ds, e.isError = true ∧ e.location = l

theorem ErrorAt.mono {ds es : List Diagnostic} {l : Location} (h : ErrorAt ds l)
    (hsub : ∀ e ∈ ds, e ∈ es) : ErrorAt es l := by
  obtain ⟨e, he, herr, hl⟩ := h
  exact ⟨e, hsub e he, herr, hl⟩

theorem ErrorAt.of_mem {ds : List Diagnostic} {l : Location} {message : Message}
    (h : Diagnostic.error l message ∈ ds) : ErrorAt ds l :=
  ⟨_, h, rfl, rfl⟩

theorem ErrorAt.anyError {ds : List Diagnostic} {l : Location} (h : ErrorAt ds l) :
    Diagnostic.anyError ds = true := by
  obtain ⟨e, he, herr, -⟩ := h
  exact List.any_eq_true.mpr ⟨e, he, herr⟩

/-! ## Selections -/

/-- What a loop leaves of a list whose first element has the position `index`. Each element is kept
as its image or dropped, and the images stand in the order of their originals. -/
inductive Selection {α β : Type} (kept : Nat → α → β → Prop) (dropped : Nat → α → Prop) :
    Nat → List α → List β → Prop
  | nil {index : Nat} : Selection kept dropped index [] []
  | keep {index : Nat} {s : α} {t : β} {rest : List α} {ts : List β} (h : kept index s t)
      (tail : Selection kept dropped (index + 1) rest ts) :
      Selection kept dropped index (s :: rest) (t :: ts)
  | drop {index : Nat} {s : α} {rest : List α} {ts : List β} (h : dropped index s)
      (tail : Selection kept dropped (index + 1) rest ts) :
      Selection kept dropped index (s :: rest) ts

namespace Selection

variable {α β : Type} {kept kept' : Nat → α → β → Prop} {dropped dropped' : Nat → α → Prop}
  {index : Nat} {ss : List α} {ts : List β}

theorem mono (h : Selection kept dropped index ss ts)
    (hk : ∀ i s t, kept i s t → kept' i s t) (hd : ∀ i s, dropped i s → dropped' i s) :
    Selection kept' dropped' index ss ts := by
  induction h with
  | nil => exact .nil
  | keep h _ ih => exact .keep (hk _ _ _ h) ih
  | drop h _ ih => exact .drop (hd _ _ h) ih

theorem mono_dropped (h : Selection kept dropped index ss ts)
    (hd : ∀ i s, dropped i s → dropped' i s) : Selection kept dropped' index ss ts :=
  h.mono (fun _ _ _ hk => hk) hd

/-- If nothing is dropped, every element has its image. -/
theorem forall₂ (h : Selection kept dropped index ss ts) (hnone : ∀ i s, ¬ dropped i s) :
    List.Forall₂ (fun p t => kept p.2 p.1 t) (ss.zipIdx index) ts := by
  induction h with
  | nil => exact .nil
  | keep h _ ih => exact .cons h ih
  | drop h _ _ => exact absurd h (hnone _ _)

/-- Each element is kept or dropped. -/
theorem kept_or_dropped (h : Selection kept dropped index ss ts) {j : Nat} {s : α}
    (hs : ss[j]? = some s) : (∃ t ∈ ts, kept (index + j) s t) ∨ dropped (index + j) s := by
  induction h generalizing j with
  | nil => simp at hs
  | @keep index s' t rest ts h _ ih =>
    cases j with
    | zero =>
      obtain rfl : s' = s := by simpa using hs
      exact .inl ⟨t, by simp, h⟩
    | succ j =>
      have hrest := ih (j := j) (by simpa using hs)
      rw [show index + 1 + j = index + (j + 1) by omega] at hrest
      rcases hrest with ⟨u, hu, hku⟩ | hd
      · exact .inl ⟨u, by simp [hu], hku⟩
      · exact .inr hd
  | @drop index s' rest ts h _ ih =>
    cases j with
    | zero =>
      obtain rfl : s' = s := by simpa using hs
      exact .inr h
    | succ j =>
      have hrest := ih (j := j) (by simpa using hs)
      rwa [show index + 1 + j = index + (j + 1) by omega] at hrest

/-- Nothing is invented: what is left is the image of an element. -/
theorem exists_of_mem (h : Selection kept dropped index ss ts) {t : β} (ht : t ∈ ts) :
    ∃ j s, ss[j]? = some s ∧ kept (index + j) s t := by
  induction h with
  | nil => simp at ht
  | @keep index s u rest ts h _ ih =>
    rcases List.mem_cons.mp ht with rfl | ht
    · exact ⟨0, s, by simp, h⟩
    · obtain ⟨j, s', hs', hk⟩ := ih ht
      exact ⟨j + 1, s', by simpa using hs', by rwa [show index + (j + 1) = index + 1 + j by omega]⟩
  | @drop index s rest ts _ _ ih =>
    obtain ⟨j, s', hs', hk⟩ := ih ht
    exact ⟨j + 1, s', by simpa using hs', by rwa [show index + (j + 1) = index + 1 + j by omega]⟩

end Selection

/-! ## Preferences -/

/-- A checked preference is the image of the one declared at an index of a group. -/
structure IsPreferenceOf (s : GroupSection) (index : Nat) (p : PreferenceSection)
    (q : Preference) : Prop where
  index_eq : q.index = index
  name_eq : q.name = p.name
  keyResource_eq : q.keyResource = s.keyPrefix ++ p.name ++ s.keySuffix

theorem preferenceKey_eq {keyPrefix keySuffix name key : String}
    (h : preferenceKey keyPrefix keySuffix name = .ok key) :
    key = keyPrefix ++ name ++ keySuffix := by
  simp only [preferenceKey] at h
  split at h
  · exact (Except.ok.inj h).symm
  · cases h

/-- A preference that is dropped has an error. -/
theorem errorAt_of_preference {c : Context} {g : Nat} {keyPrefix keySuffix : String}
    {index : Nat} {s : PreferenceSection} {reported : List Diagnostic}
    (h : preference c g keyPrefix keySuffix index s = (none, reported)) :
    ErrorAt reported (.preference g index s.name) := by
  simp only [preference] at h
  cases hb : preferenceBinding c keyPrefix keySuffix s with
  | error fault =>
    simp only [hb, Prod.mk.injEq, true_and] at h
    exact .of_mem (h ▸ List.mem_singleton_self _)
  | ok found =>
    obtain ⟨method, key, b⟩ := found
    simp only [hb] at h
    cases hd : DefaultValue.resolve b.kind s.default with
    | error fault =>
      simp only [hd, Prod.mk.injEq, true_and] at h
      exact .of_mem (h ▸ List.mem_append_right _ (List.mem_singleton_self _))
    | ok default => simp [hd] at h

theorem isPreferenceOf_of_preference {c : Context} {g index : Nat} {s : GroupSection}
    {p : PreferenceSection} {q : Preference} {reported : List Diagnostic}
    (h : preference c g s.keyPrefix s.keySuffix index p = (some q, reported)) :
    IsPreferenceOf s index p q := by
  obtain ⟨declared, given, hq⟩ := isCheckedPreference_of_preference h
  exact ⟨hq.index_eq, hq.name_eq, preferenceKey_eq hq.key⟩

/-- The loop over preferences selects: one that is left out has an error. -/
theorem selection_preferencesFrom (c : Context) (g : Nat) (s : GroupSection)
    (index : Nat) (ps : List PreferenceSection) (names : List String) (taken : TakenMethods) :
    Selection (IsPreferenceOf s)
      (fun j p => ErrorAt (preferencesFrom c g s index ps names taken).2 (.preference g j p.name))
      index ps (preferencesFrom c g s index ps names taken).1 := by
  induction ps generalizing index names taken with
  | nil => exact .nil
  | cons p rest ih =>
    simp only [preferencesFrom]
    split
    · -- the name was declared before
      exact .drop (.of_mem List.mem_cons_self)
        ((ih ..).mono_dropped fun _ _ h => h.mono fun _ => List.mem_cons_of_mem _)
    · split
      · next reported hp =>
        exact .drop ((errorAt_of_preference hp).mono fun _ => List.mem_append_left _)
          ((ih ..).mono_dropped fun _ _ h => h.mono fun _ => List.mem_append_right _)
      · next checked reported hp =>
        by_cases hclash : (taken.add c.editor checked).2.isEmpty = true
        · rw [if_pos hclash]
          exact .keep (isPreferenceOf_of_preference hp)
            ((ih ..).mono_dropped fun _ _ h => h.mono fun _ => List.mem_append_right _)
        · -- some method collides, and each collision is reported
          obtain ⟨name, hname⟩ := List.exists_mem_of_ne_nil _ (mt List.isEmpty_iff.mpr hclash)
          rw [if_neg hclash]
          refine .drop (.of_mem (List.mem_append_left _ (List.mem_append_right _
            (List.mem_map_of_mem hname)))) ?_
          exact (ih ..).mono_dropped fun _ _ h => h.mono fun _ => List.mem_append_right _

/-! ## Groups -/

/-- A checked group is the image of the one declared at an index, where the errors in `ds` account
for the preferences that it lacks. -/
structure IsGroupOf (ds : List Diagnostic) (index : Nat) (s : GroupSection) (g : Group) : Prop where
  index_eq : g.index = index
  name_eq : g.name = s.name
  keyPrefix_eq : g.keyPrefix = s.keyPrefix
  keySuffix_eq : g.keySuffix = s.keySuffix
  accessor_eq : g.accessor = snakeCase s.name
  preferences : Selection (IsPreferenceOf s)
    (fun j p => ErrorAt ds (.preference index j p.name)) 0 s.preferences g.preferences

theorem IsGroupOf.mono {ds es : List Diagnostic} {index : Nat} {s : GroupSection} {g : Group}
    (h : IsGroupOf ds index s g) (hsub : ∀ e ∈ ds, e ∈ es) : IsGroupOf es index s g :=
  { h with preferences := h.preferences.mono_dropped fun _ _ herr => herr.mono hsub }

/-- A group that is dropped for its names has an error. -/
theorem errorAt_of_group {c : Context} {index : Nat} {s : GroupSection}
    {reported : List Diagnostic} (h : group c index s = (none, reported)) :
    ErrorAt reported (.group index s.name) := by
  simp only [group] at h
  split at h
  · simp only [Prod.mk.injEq, true_and] at h
    exact .of_mem (h ▸ List.mem_singleton_self _)
  · simp at h

theorem isGroupOf_of_group {c : Context} {index : Nat} {s : GroupSection} {g : Group}
    {reported : List Diagnostic} (h : group c index s = (some g, reported)) :
    IsGroupOf reported index s g := by
  simp only [group] at h
  split at h
  · simp at h
  · simp only [Prod.mk.injEq, Option.some.injEq] at h
    obtain ⟨rfl, rfl⟩ := h
    refine ⟨rfl, rfl, rfl, rfl, rfl, ?_⟩
    exact (selection_preferencesFrom ..).mono_dropped fun _ _ herr =>
      herr.mono fun _ => List.mem_append_right _

/-- The loop over groups selects: one that is left out has an error. -/
theorem selection_groupsFrom (c : Context) (index : Nat) (ss : List GroupSection)
    (names items : List String) :
    Selection (IsGroupOf (groupsFrom c index ss names items).2)
      (fun i s => ErrorAt (groupsFrom c index ss names items).2 (.group i s.name))
      index ss (groupsFrom c index ss names items).1 := by
  induction ss generalizing index names items with
  | nil => exact .nil
  | cons s rest ih =>
    -- what the rest selects stays selected under more reports
    have htail : ∀ names items (ds : List Diagnostic),
        (∀ e ∈ (groupsFrom c (index + 1) rest names items).2, e ∈ ds) →
        Selection (IsGroupOf ds) (fun i s => ErrorAt ds (.group i s.name)) (index + 1) rest
          (groupsFrom c (index + 1) rest names items).1 := fun names items ds hsub =>
      (ih ..).mono (fun _ _ _ hk => hk.mono hsub) (fun _ _ herr => herr.mono hsub)
    simp only [groupsFrom]
    split
    · -- the name was declared before
      exact .drop (.of_mem List.mem_cons_self) (htail _ _ _ fun _ => List.mem_cons_of_mem _)
    · split
      · next reported hg =>
        exact .drop ((errorAt_of_group hg).mono fun _ => List.mem_append_left _)
          (htail _ _ _ fun _ => List.mem_append_right _)
      · next g reported hg =>
        by_cases hclash : (takeItems items g.itemNames).2.isEmpty = true
        · rw [hclash, if_neg (by simp)]
          split
          · -- the accessor is a function of the class
            refine .drop (.of_mem (List.mem_append_left _ (List.mem_append_right _
              (List.mem_singleton_self _)))) (htail _ _ _ fun _ => List.mem_append_right _)
          · exact .keep ((isGroupOf_of_group hg).mono fun _ => List.mem_append_left _)
              (htail _ _ _ fun _ => List.mem_append_right _)
        · -- some type is taken, and each clash is reported
          obtain ⟨item, hitem⟩ := List.exists_mem_of_ne_nil _ (mt List.isEmpty_iff.mpr hclash)
          rw [if_pos (by simpa using hclash)]
          exact .drop (.of_mem (List.mem_append_left _ (List.mem_append_right _
            (List.mem_map_of_mem hitem)))) (htail _ _ _ fun _ => List.mem_append_right _)

/-! ## The class -/

/-- The groups of a class that is built are a selection of the declared ones. -/
theorem selection_build {depth : Nat} {d : Declaration} {m : Class} {ds : List Diagnostic}
    (h : build depth d = (some m, ds)) :
    Selection (IsGroupOf ds) (fun i s => ErrorAt ds (.group i s.name)) 0 d.main.groups
      m.groups := by
  simp only [build] at h
  split at h
  · simp at h
  · simp only [Prod.mk.injEq, Option.map_eq_some_iff] at h
    obtain ⟨⟨runtime, -, rfl⟩, rfl⟩ := h
    have hsub : ∀ {es fs : List Diagnostic}, ∀ e ∈ es, e ∈ fs ++ es :=
      fun _ => List.mem_append_right _
    exact (selection_groupsFrom ..).mono (fun _ _ _ hk => hk.mono hsub)
      (fun _ _ herr => herr.mono hsub)

/-- A path to the run-time library that cannot be read is an error. -/
theorem errorAt_of_runtimePath {o : Options} (h : (runtimePath o).1 = none) :
    ErrorAt (runtimePath o).2 .options := by
  unfold runtimePath at h ⊢
  split at h
  · simp at h
  · exact .of_mem (List.mem_singleton_self _)

/-- Without a class there is an error. -/
theorem anyError_of_build_none {depth : Nat} {d : Declaration} {ds : List Diagnostic}
    (h : build depth d = (none, ds)) : Diagnostic.anyError ds = true := by
  simp only [build] at h
  split at h
  · simp only [Prod.mk.injEq, true_and] at h
    exact (ErrorAt.of_mem (h ▸ List.mem_append_right _ (List.mem_singleton_self _))).anyError
  · simp only [Prod.mk.injEq, Option.map_eq_none_iff] at h
    obtain ⟨hpath, rfl⟩ := h
    refine ((errorAt_of_runtimePath hpath).mono fun e he => ?_).anyError
    exact List.mem_append_left _ (List.mem_append_left _ (List.mem_append_left _ he))

/-- A group with nothing missing: each declared preference has its image, in the same order. -/
structure IsWholeGroupOf (index : Nat) (s : GroupSection) (g : Group) : Prop where
  index_eq : g.index = index
  name_eq : g.name = s.name
  keyPrefix_eq : g.keyPrefix = s.keyPrefix
  keySuffix_eq : g.keySuffix = s.keySuffix
  preferences : List.Forall₂ (fun p q => IsPreferenceOf s p.2 p.1 q) s.preferences.zipIdx
    g.preferences

theorem not_errorAt {ds : List Diagnostic} (h : Diagnostic.anyError ds = false) (l : Location) :
    ¬ ErrorAt ds l := fun herr => by
  rw [herr.anyError] at h
  cases h

theorem IsGroupOf.whole {ds : List Diagnostic} {index : Nat} {s : GroupSection} {g : Group}
    (h : IsGroupOf ds index s g) (hds : Diagnostic.anyError ds = false) :
    IsWholeGroupOf index s g where
  index_eq := h.index_eq
  name_eq := h.name_eq
  keyPrefix_eq := h.keyPrefix_eq
  keySuffix_eq := h.keySuffix_eq
  preferences := h.preferences.forall₂ fun _ _ => not_errorAt hds _

/-- Without errors the class has all groups, in the order of declaration. -/
theorem groups_of_no_error {depth : Nat} {d : Declaration} {m : Class} {ds : List Diagnostic}
    (h : build depth d = (some m, ds)) (hds : Diagnostic.anyError ds = false) :
    List.Forall₂ (fun s g => IsGroupOf ds s.2 s.1 g) d.main.groups.zipIdx m.groups :=
  (selection_build h).forall₂ fun _ _ => not_errorAt hds _

/-- **Nothing is dropped silently.** Without errors there is a class, with every declared group in
its place and every declared preference in its group, under the key that prefix, name and suffix
make. With errors, a group that is missing has an error at its own place, and so has a preference
that is missing from a group that is there. Without a class there is an error. -/
theorem build_drops_nothing_silently (depth : Nat) (d : Declaration) :
    (Diagnostic.anyError (build depth d).2 = false →
      ∃ m, (build depth d).1 = some m ∧
        List.Forall₂ (fun s g => IsWholeGroupOf s.2 s.1 g) d.main.groups.zipIdx m.groups) ∧
    (∀ m, (build depth d).1 = some m →
      (∀ i s, d.main.groups[i]? = some s → (∀ g ∈ m.groups, g.index ≠ i) →
        ErrorAt (build depth d).2 (.group i s.name)) ∧
      ∀ g ∈ m.groups, ∃ s, d.main.groups[g.index]? = some s ∧ g.name = s.name ∧
        ∀ j p, s.preferences[j]? = some p → (∀ q ∈ g.preferences, q.index ≠ j) →
          ErrorAt (build depth d).2 (.preference g.index j p.name)) ∧
    ((build depth d).1 = none → Diagnostic.anyError (build depth d).2 = true) := by
  rcases h : build depth d with ⟨built, ds⟩
  refine ⟨fun hds => ?_, fun m hm => ⟨fun i s hs hmissing => ?_, fun g hg => ?_⟩, fun hnone => ?_⟩
  · cases built with
    | none =>
      rw [anyError_of_build_none h] at hds
      cases hds
    | some m =>
      exact ⟨m, rfl, (groups_of_no_error h hds).imp fun s g hg => hg.whole hds⟩
  · obtain rfl : built = some m := hm
    rcases (selection_build h).kept_or_dropped hs with ⟨g, hg, hk⟩ | herr
    · exact absurd (hk.index_eq.trans (Nat.zero_add i)) (hmissing g hg)
    · rwa [Nat.zero_add] at herr
  · obtain rfl : built = some m := hm
    obtain ⟨i, s, hs, hk⟩ := (selection_build h).exists_of_mem hg
    obtain rfl : g.index = i := hk.index_eq.trans (Nat.zero_add i)
    refine ⟨s, hs, hk.name_eq, fun j p hp hmissing => ?_⟩
    rcases hk.preferences.kept_or_dropped hp with ⟨q, hq, hkq⟩ | herr
    · exact absurd (hkq.index_eq.trans (Nat.zero_add j)) (hmissing q hq)
    · simpa using herr
  · obtain rfl : built = none := hnone
    exact anyError_of_build_none h

end TypedPrefs.Blueprint
