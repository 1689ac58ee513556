import TypedPrefs.Proofs.Blueprint.AccessorCollisions
import TypedPrefs.Proofs.Blueprint.DeclaredTypes
import TypedPrefs.Proofs.Blueprint.RootNames

/-!
# Collisions

The groups of a class are candidates for its types, as the preferences of a group are for methods.
The main theorem says for both what is reported and what a dropped candidate leaves behind.
-/

namespace TypedPrefs.Blueprint

open Declaration Naming

/-! ## Types of groups -/

theorem nodup_itemNames (g : Group) : g.itemNames.Nodup := by
  have hkeys : g.typeName ≠ keysTypeName g.typeName := fun heq => by
    simpa [keysTypeName] using congrArg String.length heq
  have heditor : g.typeName ≠ editorTypeName g.typeName := fun heq => by
    simpa [editorTypeName] using congrArg String.length heq
  have hboth : keysTypeName g.typeName ≠ editorTypeName g.typeName := fun heq => by
    have hlength := congrArg String.length heq
    rw [keysTypeName, editorTypeName, String.length_append, String.length_append] at hlength
    exact absurd (Nat.add_left_cancel hlength) (by decide)
  simp [Group.itemNames, hkeys, heditor, hboth]

/-- All types are taken, also those that were taken before. -/
theorem mem_takeItems_iff {taken names : List String} {x : String} :
    x ∈ (takeItems taken names).1 ↔ x ∈ names ++ taken := by
  induction names generalizing taken with
  | nil => rfl
  | cons name rest ih =>
    simp only [takeItems]
    split
    · next hmem =>
      have htaken : name ∈ taken := by simpa using hmem
      rw [ih, List.cons_append, List.mem_cons, List.mem_append]
      exact ⟨.inr, fun h => h.elim (fun heq => .inr (heq ▸ htaken)) id⟩
    · rw [ih]
      simp only [List.mem_append, List.mem_cons]
      tauto

/-- The clashes are the types that were taken before, if none is there twice. -/
theorem mem_clashes_iff {taken names : List String} {x : String} (hnames : names.Nodup) :
    x ∈ (takeItems taken names).2 ↔ x ∈ names ∧ x ∈ taken := by
  induction names generalizing taken with
  | nil => simp [takeItems]
  | cons name rest ih =>
    obtain ⟨hname, hrest⟩ := List.nodup_cons.mp hnames
    simp only [takeItems]
    split
    · next hmem =>
      have htaken : name ∈ taken := by simpa using hmem
      rw [List.mem_cons, ih hrest, List.mem_cons, or_and_right]
      refine or_congr_left (and_iff_left_of_imp ?_).symm
      rintro rfl
      exact htaken
    · next hnew =>
      have hfree : name ∉ taken := by simpa using hnew
      rw [ih hrest, List.mem_cons, List.mem_cons]
      constructor
      · rintro ⟨hx, rfl | htaken⟩
        · exact absurd hx hname
        · exact ⟨.inr hx, htaken⟩
      · rintro ⟨rfl | hx, htaken⟩
        · exact absurd htaken hfree
        · exact ⟨hx, .inr htaken⟩

/-! ## What is reported about groups -/

/-- The report about a type that is taken. -/
def typeClash (index : Nat) (name type : String) : Diagnostic :=
  .error (.group index name)
    ("Preference group " ++ name ++ " generates type " ++ type ++ " which already exists")

theorem typeClash_inj {index index' : Nat} {name type name' type' : String} :
    typeClash index name type = typeClash index' name' type' ↔
      (index = index' ∧ name = name') ∧ type = type' := by
  constructor
  · intro h
    obtain ⟨hlocation, hmessage⟩ := (Diagnostic.mk.injEq ..).mp h |>.2
    obtain ⟨rfl, rfl⟩ := Location.group.inj hlocation
    refine ⟨⟨rfl, rfl⟩, ?_⟩
    simpa using hmessage
  · rintro ⟨⟨rfl, rfl⟩, rfl⟩
    rfl

theorem begins_typeClash (index : Nat) (name type : String) :
    Begins ['P', 'r'] (typeClash index name type).message.text :=
  .append (.append (.append (.append (.literal _ _))))

theorem begins_groupFault (f : GroupFault) : Begins ['I', 'l'] f.message := by
  unfold GroupFault.message
  cases f with
  | illegalName name => exact .append (.literal _ _)
  | illegalPrefix text => exact .append (.literal _ _)
  | illegalSuffix text => exact .append (.literal _ _)

/-- The report about an accessor that is taken. -/
def functionClash (index : Nat) (name accessor : String) : Diagnostic :=
  .error (.group index name)
    ("Preference group " ++ name ++ " generates accessor " ++ accessor ++ " which already exists")

theorem typeClash_ne_functionClash (index index' : Nat) (name type name' accessor : String) :
    typeClash index name type ≠ functionClash index' name' accessor := by
  intro h
  obtain ⟨hlocation, hmessage⟩ := (Diagnostic.mk.injEq ..).mp h |>.2
  obtain ⟨rfl, rfl⟩ := Location.group.inj hlocation
  have hlist := congrArg (String.toList ·.text) hmessage
  simp at hlist

/-- Preferences report nothing about groups. -/
theorem typeClash_not_mem_preferencesFrom (c : Context) (g index i : Nat) (s : GroupSection)
    (ps : List PreferenceSection) (names : List String) (taken : TakenMethods)
    (name type : String) :
    typeClash index name type ∉ (preferencesFrom c g s i ps names taken).2 := by
  induction ps generalizing i names taken with
  | nil => exact List.not_mem_nil
  | cons p rest ih =>
    have hown : typeClash index name type ∉
        (preference c g s.keyPrefix s.keySuffix i p).2 := by
      intro hmem
      rcases of_mem_preference hmem with heq | ⟨fault, heq, -⟩
      · cases heq
      · cases heq
    by_cases hmem : p.name ∈ names
    · rw [preferencesFrom_cons_of_mem hmem, List.mem_cons]
      rintro (heq | htail)
      · cases heq
      · exact ih (i + 1) names taken htail
    · cases hq : checkPreference c g s i p with
      | none =>
        rw [preferencesFrom_cons_of_none hmem hq, List.mem_append]
        exact fun h => h.elim hown (ih (i + 1) (p.name :: names) taken)
      | some q =>
        rw [preferencesFrom_cons_of_some hmem hq, List.mem_append, List.mem_append]
        rintro ((hfront | hclash) | htail)
        · exact hown hfront
        · obtain ⟨accessor, -, heq⟩ := List.mem_map.mp hclash
          cases heq
        · exact ih (i + 1) (p.name :: names) (taken.add c.editor q).1 htail

/-- A group by itself reports no type. -/
theorem typeClash_not_mem_group (c : Context) (index i : Nat) (s : GroupSection)
    (name type : String) : typeClash index name type ∉ (group c i s).2 := by
  rw [group]
  cases groupFault? s with
  | some fault =>
    intro hmem
    have hown := begins_typeClash index name type
    rw [List.mem_singleton.mp hmem] at hown
    exact absurd ((begins_groupFault fault).unique hown rfl) (by decide)
  | none =>
    intro hmem
    rcases List.mem_append.mp hmem with hmem | hmem
    · split at hmem
      · cases List.mem_singleton.mp hmem
      · cases hmem
    · exact typeClash_not_mem_preferencesFrom c i index 0 s s.preferences [] _ name type hmem

/-! ## The loop over groups -/

section Loop

variable {c : Context} {index : Nat} {s : GroupSection} {rest : List GroupSection}
variable {names items : List String}

/-- The check that makes a declared group a candidate. -/
def checkGroup (c : Context) (index : Nat) (s : GroupSection) : Option Group := (group c index s).1

/-- A group apart from its position. -/
def Group.unplaced (g : Group) : Group := { g with index := 0 }

/-- Whether a group can be reached: its accessor is no function of the class. -/
def Group.isReachable (g : Group) : Bool := !mainMethods.contains g.accessor

/-- The preferences of a group do not depend on its position. -/
theorem fst_preferencesFrom_congr (c : Context) (i j : Nat) (s : GroupSection) :
    (preferencesFrom c i s 0 s.preferences [] (.initial c.editor)).1 =
      (preferencesFrom c j s 0 s.preferences [] (.initial c.editor)).1 := by
  have hcheck : checkPreference c i s = checkPreference c j s := by
    funext index p
    rw [checkPreference_eq c i, checkPreference_eq c j]
  rw [fst_preferencesFrom, fst_preferencesFrom, hcheck]

theorem isCheck_checkGroup (c : Context) :
    IsCheck GroupSection.name (checkGroup c) Group.name Group.index Group.unplaced where
  label_eq _ _ _ hg := (isCheckedGroup_of_group (Prod.ext hg rfl)).name_eq
  position_eq _ _ _ hg := (isCheckedGroup_of_group (Prod.ext hg rfl)).index_eq
  unplaced_eq i j s := by
    simp only [checkGroup, group]
    cases groupFault? s with
    | some fault => rfl
    | none => simp only [fst_preferencesFrom_congr c i j s, Option.map_some, Group.unplaced]

theorem groupsFrom_cons_of_mem (h : s.name ∈ names) :
    groupsFrom c index (s :: rest) names items =
      ((groupsFrom c (index + 1) rest names items).1,
        .error (.group index s.name) ("Duplicate preference group name: " ++ s.name) ::
          (groupsFrom c (index + 1) rest names items).2) := by
  rw [groupsFrom]
  simp only [List.contains_eq_mem, decide_eq_true_eq, if_pos h]

theorem groupsFrom_cons_of_none (hnew : s.name ∉ names) (h : checkGroup c index s = none) :
    groupsFrom c index (s :: rest) names items =
      ((groupsFrom c (index + 1) rest (s.name :: names) items).1,
        (group c index s).2 ++ (groupsFrom c (index + 1) rest (s.name :: names) items).2) := by
  have hs : group c index s = (none, (group c index s).2) := Prod.ext h rfl
  rw [groupsFrom, hs]
  simp only [List.contains_eq_mem, decide_eq_true_eq, if_neg hnew]

/-- A candidate is kept if none of its types is taken and it can be reached; each type that is
taken is reported, and otherwise the accessor. -/
theorem groupsFrom_cons_of_some {g : Group} (hnew : s.name ∉ names)
    (h : checkGroup c index s = some g) :
    groupsFrom c index (s :: rest) names items =
      let rest := groupsFrom c (index + 1) rest (s.name :: names) (takeItems items g.itemNames).1
      let clashes := (takeItems items g.itemNames).2
      (if clashes = [] ∧ g.isReachable = true then g :: rest.1 else rest.1,
        (group c index s).2 ++
          (if clashes = [] ∧ g.isReachable = false then
              [functionClash index s.name g.accessor]
            else clashes.map (typeClash index s.name)) ++ rest.2) := by
  have hs : group c index s = (some g, (group c index s).2) := Prod.ext h rfl
  rw [groupsFrom, hs]
  simp only [List.contains_eq_mem, decide_eq_true_eq, if_neg hnew, Group.isReachable]
  cases (takeItems items g.itemNames).2 with
  | nil => by_cases hacc : g.accessor ∈ mainMethods <;> simp [hacc, functionClash]
  | cons clash clashes => simp [typeClash]

theorem no_clash_iff {g : Group} :
    (takeItems items g.itemNames).2 = [] ↔ ∀ x ∈ g.itemNames, x ∉ items := by
  rw [List.eq_nil_iff_forall_not_mem]
  simp only [mem_clashes_iff (nodup_itemNames g), not_and]

/-- The loop keeps the candidates that can be reached and do not collide. -/
theorem fst_groupsFrom (c : Context) (index : Nat) (ss : List GroupSection)
    (names items : List String) :
    (groupsFrom c index ss names items).1 =
      keptFrom Group.itemNames Group.isReachable items
        (candidatesFrom GroupSection.name (checkGroup c) index ss names) := by
  induction ss generalizing index names items with
  | nil => rfl
  | cons s rest ih =>
    rw [candidatesFrom]
    split
    · next hmem => rw [groupsFrom_cons_of_mem hmem, ih]
    · next hnew =>
      cases hg : checkGroup c index s with
      | none =>
        rw [groupsFrom_cons_of_none hnew hg, ih]
        rfl
      | some g =>
        have hrest : ∀ cs, keptFrom Group.itemNames Group.isReachable
              (takeItems items g.itemNames).1 cs =
            keptFrom Group.itemNames Group.isReachable (g.itemNames ++ items) cs :=
          fun _ => keptFrom_congr fun _ _ _ _ => mem_takeItems_iff
        rw [groupsFrom_cons_of_some hnew hg, Option.toList_some, List.singleton_append, keptFrom]
        simp only [ih, hrest, no_clash_iff, and_comm]

theorem typeClash_mem_reports_iff {g : Group} {clashes : List String} {position : Nat}
    {name type : String} :
    typeClash position name type ∈
        (if clashes = [] ∧ g.isReachable = false then [functionClash index s.name g.accessor]
          else clashes.map (typeClash index s.name)) ↔
      typeClash position name type ∈ clashes.map (typeClash index s.name) := by
  split
  · next hnone =>
    rw [hnone.1, List.mem_singleton]
    exact iff_of_false (typeClash_ne_functionClash position index name type s.name g.accessor)
      List.not_mem_nil
  · rfl

/-- What is reported about a candidate when it is its turn are its types that are taken. -/
theorem typeClash_mem_map_iff {g : Group} (h : checkGroup c index s = some g) {position : Nat}
    {name type : String} :
    typeClash position name type ∈
        (takeItems items g.itemNames).2.map (typeClash index s.name) ↔
      type ∈ g.itemNames ∧ type ∈ items ∧ g.index = position ∧ g.name = name := by
  have hcheck := isCheck_checkGroup c
  rw [List.mem_map, hcheck.position_eq index s g h, hcheck.label_eq index s g h]
  constructor
  · rintro ⟨type', hmem, heq⟩
    obtain ⟨⟨rfl, rfl⟩, rfl⟩ := typeClash_inj.mp heq
    obtain ⟨htype, htaken⟩ := (mem_clashes_iff (nodup_itemNames g)).mp hmem
    exact ⟨htype, htaken, rfl, rfl⟩
  · rintro ⟨htype, htaken, rfl, rfl⟩
    exact ⟨type, (mem_clashes_iff (nodup_itemNames g)).mpr ⟨htype, htaken⟩, rfl⟩

/-- The loop reports exactly the collisions of the candidates. -/
theorem typeClash_mem_groupsFrom_iff (index : Nat) (ss : List GroupSection)
    (names items : List String) {position : Nat} {name type : String} :
    typeClash position name type ∈ (groupsFrom c index ss names items).2 ↔
      ∃ g, Collides Group.itemNames items
          (candidatesFrom GroupSection.name (checkGroup c) index ss names) g type ∧
        g.index = position ∧ g.name = name := by
  induction ss generalizing index names items with
  | nil =>
    refine iff_of_false List.not_mem_nil ?_
    rintro ⟨g, hcollides, -⟩
    exact not_collides_nil hcollides
  | cons s rest ih =>
    rw [candidatesFrom]
    split
    · next hmem =>
      have hother : typeClash position name type ≠
          .error (.group index s.name) ("Duplicate preference group name: " ++ s.name) := by
        intro heq
        have hduplicate : Begins ['D', 'u'] ("Duplicate preference group name: " ++ s.name) :=
          .append (.literal _ _)
        have hown := begins_typeClash position name type
        rw [heq] at hown
        exact absurd (hduplicate.unique hown rfl) (by decide)
      rw [groupsFrom_cons_of_mem hmem, List.mem_cons, or_iff_right hother, ih]
    · next hnew =>
      have hown := typeClash_not_mem_group c position index s name type
      cases hg : checkGroup c index s with
      | none =>
        rw [groupsFrom_cons_of_none hnew hg, List.mem_append, or_iff_right hown, ih]
        rfl
      | some g =>
        have hrest : ∀ cs r x, Collides Group.itemNames (takeItems items g.itemNames).1 cs r x ↔
            Collides Group.itemNames (g.itemNames ++ items) cs r x :=
          fun _ _ _ => collides_congr fun _ => mem_takeItems_iff
        rw [groupsFrom_cons_of_some hnew hg, List.mem_append, List.mem_append,
          or_iff_right hown, typeClash_mem_reports_iff, typeClash_mem_map_iff hg, ih,
          Option.toList_some, List.singleton_append]
        simp only [hrest, collides_cons_iff, or_and_right, exists_or]
        refine or_congr ⟨?_, ?_⟩ Iff.rfl
        · rintro ⟨htype, htaken, hwhere⟩
          exact ⟨g, ⟨rfl, htype, htaken⟩, hwhere⟩
        · rintro ⟨r, ⟨rfl, htype, htaken⟩, hwhere⟩
          exact ⟨htype, htaken, hwhere⟩

end Loop

/-! ## Classes -/

/-- The types of a class before the first group: none if the class cannot be named. -/
def classTypes (d : Declaration) : List String :=
  match className? d.main.name with
  | some (_, className) => [className, stateTypeName className]
  | none => []

/-- The candidates among the groups of a class: none if the class cannot be named. -/
def groupCandidates (depth : Nat) (d : Declaration) : List Group :=
  match className? d.main.name with
  | some _ => candidatesFrom GroupSection.name (checkGroup (contextOf depth d)) 0 d.main.groups []
  | none => []

/-- The groups of a class that are kept. -/
def keptGroups (depth : Nat) (d : Declaration) : List Group :=
  match className? d.main.name with
  | some _ => (groupsFrom (contextOf depth d) 0 d.main.groups [] (classTypes d)).1
  | none => []

/-- A declaration without those of its groups that have a name. -/
def withoutGroup (name : String) (d : Declaration) : Declaration :=
  { d with main := { d.main with groups := d.main.groups.filter (·.name ≠ name) } }

/-- The groups of a class that is built are those that are kept. -/
theorem groups_eq_keptGroups {depth : Nat} {d : Declaration} {m : Class}
    (h : (build depth d).1 = some m) : m.groups = keptGroups depth d := by
  have hchecked := isCheckedClass_of_build (Prod.ext h rfl)
  rw [hchecked.groups_eq, keptGroups, classTypes, hchecked.className]
  rfl

theorem keptGroups_eq (depth : Nat) (d : Declaration) :
    keptGroups depth d =
      keptFrom Group.itemNames Group.isReachable (classTypes d) (groupCandidates depth d) := by
  rw [keptGroups, groupCandidates]
  cases className? d.main.name with
  | some found => exact fst_groupsFrom (contextOf depth d) 0 d.main.groups [] (classTypes d)
  | none => rfl

theorem location_of_mem_addTypes {index : Nat} {types : List TypeSection} {u : Universe}
    {e : Diagnostic} (he : e ∈ (addTypes index types u).2) :
    ∃ i name, e.location = .type i name := by
  induction types generalizing index u with
  | nil => cases he
  | cons s rest ih =>
    rw [addTypes_cons] at he
    cases hadd : addition u s with
    | error message =>
      rw [hadd] at he
      rcases List.mem_cons.mp he with rfl | he
      · exact ⟨index, s.name, rfl⟩
      · exact ih he
    | ok d =>
      rw [hadd] at he
      exact ih he

/-- Neither the path nor the types nor the resources report anything about a group. -/
theorem typeClash_not_mem_others (d : Declaration) (index : Nat) (name type : String) :
    typeClash index name type ∉ (runtimePath d.options).2 ∧
    typeClash index name type ∉ (universeOf d.types).2 ∧
    typeClash index name type ∉ (resourcesType (universeOf d.types).1 d.main).2 := by
  refine ⟨fun hmem => ?_, fun hmem => ?_, fun hmem => ?_⟩
  · rw [runtimePath] at hmem
    split at hmem
    · cases hmem
    · cases List.mem_singleton.mp hmem
  · rcases List.mem_append.mp hmem with hmem | hmem
    · obtain ⟨i, name, hlocation⟩ := location_of_mem_addTypes hmem
      cases hlocation
    · obtain ⟨p, -, heq⟩ := List.mem_map.mp hmem
      have hlocation : problemLocation d.types p = .group index name :=
        congrArg Diagnostic.location heq
      rw [problemLocation] at hlocation
      split at hlocation <;> cases hlocation
  · rw [resourcesType] at hmem
    split at hmem
    · cases hmem
    · split at hmem
      · cases hmem
      · cases List.mem_singleton.mp hmem

/-- A declaration reports exactly the collisions of the candidates among its groups. -/
theorem typeClash_mem_build_iff {depth : Nat} {d : Declaration} {index : Nat}
    {name type : String} :
    typeClash index name type ∈ (build depth d).2 ↔
      ∃ g, Collides Group.itemNames (classTypes d) (groupCandidates depth d) g type ∧
        g.index = index ∧ g.name = name := by
  obtain ⟨hpath, htypes, hresources⟩ := typeClash_not_mem_others d index name type
  simp only [build, groupCandidates, classTypes]
  cases className? d.main.name with
  | none =>
    refine iff_of_false ?_ ?_
    · simp only [List.mem_append, not_or]
      refine ⟨⟨hpath, htypes⟩, fun hmem => ?_⟩
      cases List.mem_singleton.mp hmem
    · rintro ⟨g, hcollides, -⟩
      exact not_collides_nil hcollides
  | some found =>
    have hother : typeClash index name type ∉ (runtimePath d.options).2 ++
        (universeOf d.types).2 ++ (resourcesType (universeOf d.types).1 d.main).2 := by
      simp only [List.mem_append, not_or]
      exact ⟨⟨hpath, htypes⟩, hresources⟩
    refine List.mem_append.trans ((or_iff_right hother).trans ?_)
    exact typeClash_mem_groupsFrom_iff 0 d.main.groups [] [found.2, stateTypeName found.2]

/-- No group that is dropped takes a type anew that a later one has. -/
def GroupsLeaveNothing (depth : Nat) (d : Declaration) : Prop :=
  LeavesNothing Group.itemNames Group.isReachable (classTypes d) (groupCandidates depth d)

instance (depth : Nat) (d : Declaration) : Decidable (GroupsLeaveNothing depth d) :=
  decideLeavesNothing Group.itemNames Group.isReachable (classTypes d) (groupCandidates depth d)

/-- What can be said about the types that collide in a class. -/
structure TypeCollisions (depth : Nat) (d : Declaration) : Prop where
  /-- Reported is each type of a candidate that is one of the class or of a candidate before it,
  whether that was kept or not. -/
  reported_iff : ∀ index name type, typeClash index name type ∈ (build depth d).2 ↔
    ∃ g, Collides Group.itemNames (classTypes d) (groupCandidates depth d) g type ∧
      g.index = index ∧ g.name = name
  /-- Nothing is left behind exactly if each collision is with a type of the class or of an earlier
  group that is kept. -/
  leaveNothing_iff : GroupsLeaveNothing depth d ↔
    ∀ g type, Collides Group.itemNames (classTypes d) (groupCandidates depth d) g type →
      type ∈ classTypes d ∨
        ∃ e ∈ keptGroups depth d, e.index < g.index ∧ type ∈ e.itemNames
  /-- Then each report names a type that exists. -/
  reported : GroupsLeaveNothing depth d → ∀ index name type,
    typeClash index name type ∈ (build depth d).2 →
      type ∈ classTypes d ∨ ∃ e ∈ keptGroups depth d, e.index < index ∧ type ∈ e.itemNames
  /-- Then a candidate that is dropped could as well be missing, along with what repeats its name:
  the same others are kept. -/
  without : GroupsLeaveNothing depth d → ∀ g ∈ groupCandidates depth d, g ∉ keptGroups depth d →
    (keptGroups depth (withoutGroup g.name d)).map Group.unplaced =
      (keptGroups depth d).map Group.unplaced
  /-- What is kept makes up the class that is built. -/
  groups_eq : ∀ m, (build depth d).1 = some m → m.groups = keptGroups depth d

/-- The candidates stand in the order of declaration. -/
theorem pairwise_groupCandidates (depth : Nat) (d : Declaration) :
    (groupCandidates depth d).Pairwise fun g h => g.index < h.index := by
  rw [groupCandidates]
  cases className? d.main.name with
  | none => exact .nil
  | some found =>
    exact ((isCheck_checkGroup (contextOf depth d)).pairwise 0 d.main.groups []).imp And.left

theorem keptGroups_without {depth : Nat} {d : Declaration} (h : GroupsLeaveNothing depth d)
    {g : Group} (hg : g ∈ groupCandidates depth d) (hdropped : g ∉ keptGroups depth d) :
    (keptGroups depth (withoutGroup g.name d)).map Group.unplaced =
      (keptGroups depth d).map Group.unplaced := by
  have hname : (withoutGroup g.name d).main.name = d.main.name := rfl
  have htypes : classTypes (withoutGroup g.name d) = classTypes d := rfl
  rw [keptGroups_eq] at hdropped
  rw [keptGroups_eq, keptGroups_eq, htypes]
  rw [GroupsLeaveNothing] at h
  unfold groupCandidates at h hg hdropped ⊢
  rw [hname]
  cases hclass : className? d.main.name with
  | none => rfl
  | some found =>
    rw [hclass] at h hg hdropped
    exact (isCheck_checkGroup (contextOf depth d)).keptFrom_filter (fun _ => rfl) (fun _ => rfl) h
      hg hdropped

theorem typeCollisions (depth : Nat) (d : Declaration) : TypeCollisions depth d := by
  have hiff : GroupsLeaveNothing depth d ↔
      ∀ g type, Collides Group.itemNames (classTypes d) (groupCandidates depth d) g type →
        type ∈ classTypes d ∨
          ∃ e ∈ keptGroups depth d, e.index < g.index ∧ type ∈ e.itemNames := by
    rw [keptGroups_eq]
    exact leavesNothing_iff (pairwise_groupCandidates depth d)
  refine ⟨fun _ _ _ => typeClash_mem_build_iff, hiff, ?_, fun h _ => keptGroups_without h,
    fun _ => groups_eq_keptGroups⟩
  intro h index name type hmem
  obtain ⟨g, hcollides, rfl, -⟩ := typeClash_mem_build_iff.mp hmem
  exact hiff.mp h g type hcollides

/-- **What collides, and what a dropped candidate leaves behind.** A group reports each name of a
preference that is built in or that an earlier candidate has, and a class does so for the types of
its groups, whether that candidate was kept or not. Reports name only what exists exactly if no
candidate that is dropped took a name anew that a later one has; and then whatever was dropped for a
collision could as well be missing. -/
theorem collisions_of_candidates (c : Context) (index : Nat) (s : GroupSection) (depth : Nat)
    (d : Declaration) : AccessorCollisions c index s ∧ TypeCollisions depth d :=
  ⟨accessorCollisions c index s, typeCollisions depth d⟩

/-- A group with preferences of the given names, each of them a number. -/
def viewOf (names : List String) : GroupSection :=
  { name := "view", preferences := names.map fun name => { name, type := "int" } }

/-- A context with nothing but the built-in types, for a fluent class with editors. -/
def fluentContext : Context :=
  contextOf 10 { main := { name := "Main", fluent := true, editor := true } }

/-- Names that differ only in their case: the second is dropped and leaves nothing behind. -/
theorem collisions_of_candidates_case :
    (PreferencesLeaveNothing fluentContext 0 (viewOf ["a", "A"]) ∧
      ∃ p ∈ preferenceCandidates fluentContext 0 (viewOf ["a", "A"]), p.name = "A" ∧
        (keptPreferences fluentContext 0 (viewOf ["a"])).map Preference.unplaced =
          (keptPreferences fluentContext 0 (viewOf ["a", "A"])).map Preference.unplaced) ∧
    (GroupsLeaveNothing 10 (classOfGroups ["a", "A"]) ∧
      ∃ g ∈ groupCandidates 10 (classOfGroups ["a", "A"]), g.name = "A" ∧
        (keptGroups 10 (classOfGroups ["a"])).map Group.unplaced =
          (keptGroups 10 (classOfGroups ["a", "A"])).map Group.unplaced) := by
  obtain ⟨hpreferences, p, hp, hpname, hpdropped⟩ :
      PreferencesLeaveNothing fluentContext 0 (viewOf ["a", "A"]) ∧
        ∃ p ∈ preferenceCandidates fluentContext 0 (viewOf ["a", "A"]), p.name = "A" ∧
          p ∉ keptPreferences fluentContext 0 (viewOf ["a", "A"]) := by
    decide +kernel
  obtain ⟨hgroups, g, hg, hgname, hgdropped⟩ :
      GroupsLeaveNothing 10 (classOfGroups ["a", "A"]) ∧
        ∃ g ∈ groupCandidates 10 (classOfGroups ["a", "A"]), g.name = "A" ∧
          g ∉ keptGroups 10 (classOfGroups ["a", "A"]) := by
    decide +kernel
  obtain ⟨haccessors, htypes⟩ :=
    collisions_of_candidates fluentContext 0 (viewOf ["a", "A"]) 10 (classOfGroups ["a", "A"])
  have hsame := haccessors.without hpreferences p hp hpdropped
  have hsameGroups := htypes.without hgroups g hg hgdropped
  rw [hpname] at hsame
  rw [hgname] at hsameGroups
  exact ⟨⟨hpreferences, p, hp, hpname, hsame⟩, hgroups, g, hg, hgname, hsameGroups⟩

/-- The preference `new` is dropped for a built-in method, and `set_new` for the setter of `new`,
which does not exist. The group `clear` is dropped for a function of the class, and `clear_keys` for
the keys of `clear`, which do not exist either. Without the first one, the second one is kept. -/
theorem collisions_with_dropped :
    (accessorClash 0 1 "set_new" "set_new" "view" ∈
        (group fluentContext 0 (viewOf ["new", "set_new"])).2 ∧
      "set_new" ∉ (builtinMethods true).map Prod.snd ∧
      keptPreferences fluentContext 0 (viewOf ["new", "set_new"]) = [] ∧
      (keptPreferences fluentContext 0 (viewOf ["set_new"])).map Preference.name = ["set_new"]) ∧
    (typeClash 1 "clear_keys" "ClearKeys" ∈
        (build 10 (classOfGroups ["clear", "clear_keys"])).2 ∧
      "ClearKeys" ∉ classTypes (classOfGroups ["clear", "clear_keys"]) ∧
      keptGroups 10 (classOfGroups ["clear", "clear_keys"]) = [] ∧
      (keptGroups 10 (classOfGroups ["clear_keys"])).map Group.name = ["clear_keys"]) := by
  decide +kernel

end TypedPrefs.Blueprint
