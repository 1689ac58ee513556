import Mathlib.Data.List.Nodup
import TypedPrefs.Proofs.Blueprint.Accounting

/-!
# The names of a class

A class has three name spaces of its own: its functions, the fields of its state, and the types
around it. Types are compared with each other while the class is built, and accessors with the
fixed functions; accessors are never compared with each other. So the types never collide, and the
other two name spaces are free of collisions exactly if no two groups have one snake case.
-/

namespace TypedPrefs.Blueprint

open Declaration Naming

/-! ## The three name spaces -/

/-- The functions of a class. -/
def functionNames (m : Class) : List String := mainMethods ++ m.groups.map Group.accessor

/-- The fields of the state of a class. -/
def stateFields (m : Class) : List String := ["store", "strings"] ++ m.groups.map Group.cellField

/-- The types that a class adds to its module. -/
def typeItems (m : Class) : List String :=
  [m.className, m.stateType] ++ m.groups.flatMap Group.itemNames

/-! ## Types -/

/-- Taking names only adds to those that are taken, and never one twice. -/
theorem takeItems_taken (taken names : List String) :
    ∃ new, (takeItems taken names).1 = new ++ taken ∧
      (taken.Nodup → (takeItems taken names).1.Nodup) := by
  induction names generalizing taken with
  | nil => exact ⟨[], rfl, id⟩
  | cons name rest ih =>
    simp only [takeItems]
    split
    · exact ih taken
    · next hnew =>
      obtain ⟨new, heq, hnodup⟩ := ih (name :: taken)
      refine ⟨new ++ [name], by simp [heq], fun htaken => hnodup ?_⟩
      exact List.nodup_cons.mpr ⟨by simpa using hnew, htaken⟩

/-- Without a clash all names are new. -/
theorem takeItems_of_no_clash {taken names : List String}
    (h : (takeItems taken names).2 = []) :
    (takeItems taken names).1 = names.reverse ++ taken := by
  induction names generalizing taken with
  | nil => rfl
  | cons name rest ih =>
    simp only [takeItems] at h ⊢
    split at h
    · simp at h
    · next hnew =>
      rw [if_neg hnew, ih h]
      simp

/-- The types of the groups that are kept are distinct, and none of them was taken before. -/
theorem nodup_items_groupsFrom (c : Context) (index : Nat) (ss : List GroupSection)
    (names items : List String) (hitems : items.Nodup) :
    ((groupsFrom c index ss names items).1.flatMap Group.itemNames ++ items).Nodup := by
  induction ss generalizing index names items with
  | nil => simpa [groupsFrom] using hitems
  | cons s rest ih =>
    simp only [groupsFrom]
    split
    · exact ih (index + 1) names items hitems
    · split
      · exact ih (index + 1) (s.name :: names) items hitems
      · next g reported hg =>
        obtain ⟨new, hnew, hnodup⟩ := takeItems_taken items g.itemNames
        have htail := ih (index + 1) (s.name :: names) _ (hnodup hitems)
        -- a group that is left out keeps its names taken, which does no harm
        have hdropped := htail.sublist
          ((List.Sublist.refl _).append (hnew ▸ List.sublist_append_right new items))
        by_cases hclash : (takeItems items g.itemNames).2 = []
        · rw [hclash, List.isEmpty_nil, Bool.not_true, if_neg Bool.false_ne_true]
          split
          · exact hdropped
          · rw [takeItems_of_no_clash hclash] at htail
            refine (List.Perm.nodup_iff ?_).mp htail
            rw [takeItems_of_no_clash hclash, List.flatMap_cons, List.append_assoc]
            exact (List.perm_append_comm_assoc ..).trans
              ((List.reverse_perm _).append_right _)
        · rw [if_pos (by simpa using hclash)]
          exact hdropped

/-- The types of a class are distinct, whether there are errors or not. -/
theorem nodup_typeItems {depth : Nat} {d : Declaration} {m : Class} {ds : List Diagnostic}
    (h : build depth d = (some m, ds)) : (typeItems m).Nodup := by
  have hstate : m.className ≠ m.stateType := fun heq => by
    simpa [Class.stateType, stateTypeName] using congrArg String.length heq
  rw [typeItems, (isCheckedClass_of_build h).groups_eq]
  refine (List.Perm.nodup_iff List.perm_append_comm).mp (nodup_items_groupsFrom _ _ _ _ _ ?_)
  simpa using hstate

/-! ## Functions and fields -/

/-- The functions collide only if accessors do. -/
theorem nodup_functionNames {depth : Nat} {d : Declaration} {m : Class} {ds : List Diagnostic}
    (h : build depth d = (some m, ds)) :
    (functionNames m).Nodup ↔ (m.groups.map Group.accessor).Nodup := by
  have hfree : ∀ g ∈ m.groups, g.accessor ∉ mainMethods := by
    intro g hg
    obtain ⟨-, -, -, -, -, hfree⟩ := (isCheckedClass_of_build h).exists_of_mem hg
    exact hfree
  have hfixed : mainMethods.Nodup := by decide
  have hdisjoint : mainMethods.Disjoint (m.groups.map Group.accessor) := by
    intro name hname hacc
    obtain ⟨g, hg, rfl⟩ := List.mem_map.mp hacc
    exact hfree g hg hname
  rw [functionNames, List.nodup_append']
  exact ⟨fun hall => hall.2.1, fun hacc => ⟨hfixed, hacc, hdisjoint⟩⟩

theorem cellFieldName_injective : Function.Injective cellFieldName := fun _ _ h =>
  (String.append_left_inj _).mp h

/-- A cell is named neither `store` nor `strings`: its name has another last character. -/
theorem cellFieldName_not_mem (accessor : String) :
    cellFieldName accessor ∉ ["store", "strings"] := by
  have hlast : (cellFieldName accessor).toList.getLast? = some 'p' := by
    simp [cellFieldName]
  intro hmem
  rcases List.mem_pair.mp hmem with heq | heq <;> rw [heq] at hlast <;> revert hlast <;> decide

/-- The fields collide only if accessors do. -/
theorem nodup_stateFields (m : Class) :
    (stateFields m).Nodup ↔ (m.groups.map Group.accessor).Nodup := by
  have hcells : m.groups.map Group.cellField
      = (m.groups.map Group.accessor).map cellFieldName := by
    rw [List.map_map]
    rfl
  have hdisjoint : ["store", "strings"].Disjoint (m.groups.map Group.cellField) := by
    intro name hname hcell
    obtain ⟨g, hg, rfl⟩ := List.mem_map.mp hcell
    exact cellFieldName_not_mem g.accessor hname
  have hfixed : ["store", "strings"].Nodup := by decide
  rw [stateFields, List.nodup_append', hcells, List.nodup_map_iff cellFieldName_injective,
    ← hcells]
  exact ⟨fun hall => hall.2.1, fun hacc => ⟨hfixed, hacc, hdisjoint⟩⟩

/-- Without errors the accessors are the snake cases of the declared names. -/
theorem accessors_of_no_error {depth : Nat} {d : Declaration} {m : Class} {ds : List Diagnostic}
    (h : build depth d = (some m, ds)) (hds : Diagnostic.anyError ds = false) :
    m.groups.map Group.accessor = d.main.groups.map fun s => snakeCase s.name := by
  have hsame : List.Forall₂ (· = ·) (m.groups.map Group.accessor)
      (d.main.groups.zipIdx.map fun s => snakeCase s.1.name) := by
    rw [List.forall₂_map_left_iff, List.forall₂_map_right_iff]
    exact ((groups_of_no_error h hds).imp fun _ _ hg => hg.accessor_eq).flip
  rw [List.forall₂_eq_eq_eq] at hsame
  calc m.groups.map Group.accessor
      = (d.main.groups.zipIdx.map Prod.fst).map fun s => snakeCase s.name := by
        rw [hsame, List.map_map]
        rfl
    _ = d.main.groups.map fun s => snakeCase s.name := by rw [List.zipIdx_map_fst]

/-- **When the names of a class collide.** The types of a class that is built without errors never
collide. Its functions and the fields of its state are free of collisions exactly if the declared
groups differ in their snake case, which nothing checks. -/
theorem root_names_collide_iff {depth : Nat} {d : Declaration} {m : Class} {ds : List Diagnostic}
    (h : build depth d = (some m, ds)) (hds : Diagnostic.anyError ds = false) :
    (typeItems m).Nodup ∧
    ((functionNames m).Nodup ↔ (d.main.groups.map fun s => snakeCase s.name).Nodup) ∧
    ((stateFields m).Nodup ↔ (d.main.groups.map fun s => snakeCase s.name).Nodup) := by
  rw [nodup_functionNames h, nodup_stateFields, accessors_of_no_error h hds]
  exact ⟨nodup_typeItems h, Iff.rfl, Iff.rfl⟩

/-- A class with the given groups, each of one number. -/
def classOfGroups (names : List String) : Declaration :=
  { main :=
      { name := "Main"
        groups := names.map fun name =>
          { name, preferences := [{ name := "count", type := "int" }] } } }

/-- Groups whose names differ only in their style get distinct names throughout. -/
theorem root_names_distinct_userSettings_HTTPPort :
    ∃ m ds, build 10 (classOfGroups ["userSettings", "HTTPPort"]) = (some m, ds) ∧
      Diagnostic.anyError ds = false ∧
      (typeItems m).Nodup ∧ (functionNames m).Nodup ∧ (stateFields m).Nodup := by
  have hnames : (["userSettings", "HTTPPort"].map snakeCase).Nodup := by decide +kernel
  obtain ⟨m, ds, hbuilt, hds⟩ :
      ∃ m ds, build 10 (classOfGroups ["userSettings", "HTTPPort"]) = (some m, ds) ∧
        Diagnostic.anyError ds = false := exists_of_outcome (by decide +kernel)
  obtain ⟨hitems, hfunctions, hfields⟩ := root_names_collide_iff hbuilt hds
  exact ⟨m, ds, hbuilt, hds, hitems, hfunctions.mpr hnames, hfields.mpr hnames⟩

/-- The groups `AB` and `ab` get different types but one accessor, and nothing is reported. -/
theorem root_names_collide_AB_ab :
    ∃ m ds, build 10 (classOfGroups ["AB", "ab"]) = (some m, ds) ∧
      Diagnostic.anyError ds = false ∧
      ¬ (functionNames m).Nodup ∧ ¬ (stateFields m).Nodup :=
  exists_of_outcome (by decide +kernel)

end TypedPrefs.Blueprint
