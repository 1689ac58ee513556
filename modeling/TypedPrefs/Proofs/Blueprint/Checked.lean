import TypedPrefs.Blueprint.Class
import TypedPrefs.Proofs.Result

/-!
# What has been checked

A preference, a group or a class that is kept has passed every check, and it is made of what the
checks gave. There is one statement here for each of the three; what is said about a class that is
built starts from them.
-/

namespace TypedPrefs.Blueprint

open Declaration Naming

/-! ## Preferences -/

/-- A preference that has passed its checks, of which those of its types gave `declared` and
`given`. -/
structure IsCheckedPreference (c : Context) (keyPrefix keySuffix : String) (index : Nat)
    (s : PreferenceSection) (declared : TypeRef) (given : Option TypeRef) (p : Preference) :
    Prop where
  index_eq : p.index = index
  name_eq : p.name = s.name
  method : preferenceMethod s.name = .ok p.method
  key : preferenceKey keyPrefix keySuffix s.name = .ok p.keyResource
  type : parseType c.types s.type = .ok declared
  serializer : parseSerializer c.types s.serializer = .ok given
  binding : Binding.resolve c.types c.depth declared given = .ok p.binding
  default : DefaultValue.resolve p.binding.kind s.default = .ok p.default
  documentation_eq : p.documentation = documentation s.description p.binding.kind p.default
  accessors_eq : p.accessors = accessorsOf c p.method p.binding

theorem isCheckedPreference_of_preference {c : Context} {g index : Nat}
    {keyPrefix keySuffix : String} {s : PreferenceSection} {p : Preference}
    {reported : List Diagnostic}
    (h : preference c g keyPrefix keySuffix index s = (some p, reported)) :
    ∃ declared given, IsCheckedPreference c keyPrefix keySuffix index s declared given p := by
  simp only [preference] at h
  cases hbinding : preferenceBinding c keyPrefix keySuffix s with
  | error fault => simp [hbinding] at h
  | ok found =>
    obtain ⟨method, key, b⟩ := found
    simp only [hbinding] at h
    cases hdefault : DefaultValue.resolve b.kind s.default with
    | error fault => simp [hdefault] at h
    | ok default =>
      simp only [hdefault, Prod.mk.injEq, Option.some.injEq] at h
      obtain ⟨rfl, -⟩ := h
      -- the steps of the binding, one by one
      obtain ⟨method', hmethod, hbinding⟩ := bind_eq_ok_iff.mp hbinding
      obtain ⟨key', hkey, hbinding⟩ := bind_eq_ok_iff.mp hbinding
      obtain ⟨declared, hdeclared, hbinding⟩ := bind_eq_ok_iff.mp hbinding
      obtain ⟨given, hgiven, hbinding⟩ := bind_eq_ok_iff.mp hbinding
      obtain ⟨b', hresolve, hbinding⟩ := bind_eq_ok_iff.mp hbinding
      cases hbinding
      exact ⟨declared, given, rfl, rfl, hmethod, hkey, hdeclared, hgiven,
        mapError_eq_ok_iff.mp hresolve, hdefault, rfl, rfl⟩

/-- A preference that a group keeps has been checked at its position. -/
theorem exists_of_mem_preferencesFrom {c : Context} {g index : Nat} {s : GroupSection}
    {ps : List PreferenceSection} {names : List String} {taken : TakenMethods} {q : Preference}
    (hq : q ∈ (preferencesFrom c g s index ps names taken).1) :
    ∃ j p reported, ps[j]? = some p ∧
      preference c g s.keyPrefix s.keySuffix (index + j) p = (some q, reported) := by
  induction ps generalizing index names taken with
  | nil => simp [preferencesFrom] at hq
  | cons p rest ih =>
    have hrest : ∀ {names taken}, q ∈ (preferencesFrom c g s (index + 1) rest names taken).1 →
        ∃ j p' reported, (p :: rest)[j]? = some p' ∧
          preference c g s.keyPrefix s.keySuffix (index + j) p' = (some q, reported) := fun hq => by
      obtain ⟨j, p', reported, hp', hchecked⟩ := ih hq
      rw [Nat.add_right_comm, Nat.add_assoc] at hchecked
      exact ⟨j + 1, p', reported, hp', hchecked⟩
    simp only [preferencesFrom] at hq
    split at hq
    · exact hrest hq
    · split at hq
      · exact hrest hq
      · next checked reported hchecked =>
        split at hq
        · rcases List.mem_cons.mp hq with rfl | hq
          · exact ⟨0, p, reported, rfl, hchecked⟩
          · exact hrest hq
        · exact hrest hq

/-! ## Groups -/

/-- A group whose names have passed their checks, with the preferences that are kept. -/
structure IsCheckedGroup (c : Context) (index : Nat) (s : GroupSection) (g : Group) : Prop where
  fault : groupFault? s = none
  index_eq : g.index = index
  name_eq : g.name = s.name
  accessor_eq : g.accessor = snakeCase s.name
  typeName_eq : g.typeName = pascalCase s.name
  keyPrefix_eq : g.keyPrefix = s.keyPrefix
  keySuffix_eq : g.keySuffix = s.keySuffix
  preferences_eq :
    g.preferences = (preferencesFrom c index s 0 s.preferences [] (.initial c.editor)).1

theorem isCheckedGroup_of_group {c : Context} {index : Nat} {s : GroupSection} {g : Group}
    {reported : List Diagnostic} (h : group c index s = (some g, reported)) :
    IsCheckedGroup c index s g := by
  simp only [group] at h
  split at h
  · cases h
  · next hfault =>
    simp only [Prod.mk.injEq, Option.some.injEq] at h
    obtain ⟨rfl, -⟩ := h
    exact ⟨hfault, rfl, rfl, rfl, rfl, rfl, rfl, rfl⟩

/-- The preferences of a group have been checked. -/
theorem IsCheckedGroup.exists_of_mem {c : Context} {index : Nat} {s : GroupSection} {g : Group}
    (h : IsCheckedGroup c index s g) {p : Preference} (hp : p ∈ g.preferences) :
    ∃ i s' declared given, s.preferences[i]? = some s' ∧
      IsCheckedPreference c s.keyPrefix s.keySuffix i s' declared given p := by
  rw [h.preferences_eq] at hp
  obtain ⟨i, s', reported, hs', hkept⟩ := exists_of_mem_preferencesFrom hp
  rw [Nat.zero_add] at hkept
  obtain ⟨declared, given, hchecked⟩ := isCheckedPreference_of_preference hkept
  exact ⟨i, s', declared, given, hs', hchecked⟩

/-- A group that is kept comes from the one declared at its position, and its accessor is no fixed
function. -/
theorem exists_of_mem_groupsFrom {c : Context} {index : Nat} {ss : List GroupSection}
    {names items : List String} {g : Group} (hg : g ∈ (groupsFrom c index ss names items).1) :
    ∃ j s reported, ss[j]? = some s ∧ group c (index + j) s = (some g, reported) ∧
      g.accessor ∉ mainMethods := by
  induction ss generalizing index names items with
  | nil => simp [groupsFrom] at hg
  | cons s rest ih =>
    have hrest : ∀ {names items}, g ∈ (groupsFrom c (index + 1) rest names items).1 →
        ∃ j s' reported, (s :: rest)[j]? = some s' ∧
          group c (index + j) s' = (some g, reported) ∧ g.accessor ∉ mainMethods := fun hg => by
      obtain ⟨j, s', reported, hs', hkept, hfree⟩ := ih hg
      rw [Nat.add_right_comm, Nat.add_assoc] at hkept
      exact ⟨j + 1, s', reported, hs', hkept, hfree⟩
    simp only [groupsFrom] at hg
    split at hg
    · exact hrest hg
    · split at hg
      · exact hrest hg
      · next kept reported hkept =>
        split at hg
        · exact hrest hg
        · split at hg
          · exact hrest hg
          · next hfree =>
            rcases List.mem_cons.mp hg with rfl | hg
            · exact ⟨0, s, reported, rfl, hkept, by simpa using hfree⟩
            · exact hrest hg

/-! ## The class -/

/-- What the preferences of a declaration have in common. -/
def contextOf (depth : Nat) (d : Declaration) : Context :=
  { types := (universeOf d.types).1, depth, fluent := d.main.fluent, editor := d.main.editor }

/-- A class whose name has passed its checks, with the groups that are kept. -/
structure IsCheckedClass (depth : Nat) (d : Declaration) (m : Class) : Prop where
  className : className? d.main.name = some (m.modules, m.className)
  groups_eq :
    m.groups =
      (groupsFrom (contextOf depth d) 0 d.main.groups [] [m.className, m.stateType]).1

theorem isCheckedClass_of_build {depth : Nat} {d : Declaration} {m : Class} {ds : List Diagnostic}
    (h : build depth d = (some m, ds)) : IsCheckedClass depth d m := by
  simp only [build] at h
  split at h
  · cases h
  · next modules className hname =>
    simp only [Prod.mk.injEq, Option.map_eq_some_iff] at h
    obtain ⟨⟨runtime, -, rfl⟩, -⟩ := h
    exact ⟨hname, rfl⟩

/-- The groups of a class have been checked. -/
theorem IsCheckedClass.exists_of_mem {depth : Nat} {d : Declaration} {m : Class}
    (h : IsCheckedClass depth d m) {g : Group} (hg : g ∈ m.groups) :
    ∃ i s reported, d.main.groups[i]? = some s ∧
      group (contextOf depth d) i s = (some g, reported) ∧ g.accessor ∉ mainMethods := by
  rw [h.groups_eq] at hg
  obtain ⟨i, s, reported, hs, hkept, hfree⟩ := exists_of_mem_groupsFrom hg
  rw [Nat.zero_add] at hkept
  exact ⟨i, s, reported, hs, hkept, hfree⟩

end TypedPrefs.Blueprint
