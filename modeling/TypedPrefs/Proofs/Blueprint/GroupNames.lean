import TypedPrefs.Proofs.Blueprint.Keys

/-!
# The names of a group

A group has four name spaces: the functions of its type, its fields, the functions of its editor,
and the methods that give its keys, which are fields as well. Each preference takes names in all of
them before it is known whether it can stay. One that is left out keeps its names taken; one that
stays took only new names. So what stays is distinct in every name space, whatever was left out.
-/

namespace TypedPrefs.Blueprint

open Declaration Naming

/-! ## The four name spaces -/

/-- The getter and the setter of a preference, if it has a value. -/
def Preference.functions (p : Preference) : List String :=
  match p.accessors with
  | none => []
  | some a => [a.getter, a.setter]

/-- The setter of a preference on the editor, if it has a value. -/
def Preference.editorFunctions (p : Preference) : List String :=
  match p.accessors with
  | none => []
  | some a => [a.editorSetter]

namespace Group

/-- The functions of the type of a group. -/
def functions (editor : Bool) (g : Group) : List String :=
  ["new", "keys"] ++ (if editor then ["edit"] else []) ++
    g.preferences.flatMap Preference.functions

/-- The functions of the editor of a group. -/
def editorFunctions (g : Group) : List String :=
  ["apply", "commit"] ++ g.preferences.flatMap Preference.editorFunctions

/-- The methods that give the keys of a group, and the fields that hold them. -/
def keyMethods (g : Group) : List String := g.preferences.map Preference.method

/-- The fields of the type of a group: those that every group has, and one for each serializer. -/
def fields (g : Group) : List String :=
  ["store", "keys"] ++
    (g.preferences.filter fun p => p.binding.hasSerializer).map Preference.serializerField

end Group

/-! ## Taking names -/

namespace TakenMethods

theorem sublist_take (name : String) (taken : List String) :
    taken.Sublist (take name taken).1 := by
  rw [take]
  split
  · exact .refl _
  · exact List.sublist_cons_self _ _

theorem nodup_take (name : String) {taken : List String} (h : taken.Nodup) :
    (take name taken).1.Nodup := by
  rw [take]
  split
  · exact h
  · next hnew => exact List.nodup_cons.mpr ⟨by simpa using hnew, h⟩

theorem take_of_no_collision {name : String} {taken : List String}
    (h : (take name taken).2 = []) : (take name taken).1 = name :: taken := by
  rw [take] at h ⊢
  split at h
  · cases h
  · next hnew => rw [if_neg hnew]

/-- A name space in which preferences take names. Taking names only adds to those that are taken,
and never one twice; and without a collision all names of the preference are added. -/
structure IsNameSpace (editor : Bool) (names : Preference → List String)
    (taken : TakenMethods → List String) : Prop where
  sublist : ∀ p t, (taken t).Sublist (taken (t.add editor p).1)
  nodup : ∀ p t, (taken t).Nodup → (taken (t.add editor p).1).Nodup
  perm : ∀ p t, (t.add editor p).2 = [] → (taken (t.add editor p).1).Perm (names p ++ taken t)

theorem isNameSpace_group (editor : Bool) : IsNameSpace editor Preference.functions group where
  sublist p t := by
    cases hacc : p.accessors with
    | none => simp [add, hacc]
    | some a =>
      simp only [add, hacc]
      exact (sublist_take a.getter t.group).trans (sublist_take a.setter _)
  nodup p t ht := by
    cases hacc : p.accessors with
    | none => simpa [add, hacc] using ht
    | some a =>
      simp only [add, hacc]
      exact nodup_take _ (nodup_take _ ht)
  perm p t h := by
    cases hacc : p.accessors with
    | none => simp [add, hacc, Preference.functions]
    | some a =>
      simp only [add, hacc, List.append_eq_nil_iff] at h
      obtain ⟨⟨⟨-, hgetter⟩, hsetter⟩, -⟩ := h
      rw [take_of_no_collision hgetter] at hsetter
      simp only [add, hacc, Preference.functions]
      rw [take_of_no_collision hgetter, take_of_no_collision hsetter]
      exact List.Perm.swap a.getter a.setter t.group

theorem isNameSpace_editor : IsNameSpace true Preference.editorFunctions editor where
  sublist p t := by
    cases hacc : p.accessors with
    | none => simp [add, hacc]
    | some a =>
      simp only [add, hacc, if_true]
      exact sublist_take a.editorSetter t.editor
  nodup p t ht := by
    cases hacc : p.accessors with
    | none => simpa [add, hacc] using ht
    | some a =>
      simp only [add, hacc, if_true]
      exact nodup_take _ ht
  perm p t h := by
    cases hacc : p.accessors with
    | none => simp [add, hacc, Preference.editorFunctions]
    | some a =>
      simp only [add, hacc, List.append_eq_nil_iff, if_true] at h
      simp only [add, hacc, Preference.editorFunctions, if_true]
      rw [take_of_no_collision h.2]
      exact .refl _

/-- The names of the preferences that are kept are distinct, and none of them was taken before. -/
theorem IsNameSpace.nodup_preferencesFrom {c : Context} {names : Preference → List String}
    {space : TakenMethods → List String} (hspace : IsNameSpace c.editor names space) (group : Nat)
    (s : GroupSection) (index : Nat) (ps : List PreferenceSection) (seen : List String)
    (taken : TakenMethods) (htaken : (space taken).Nodup) :
    ((preferencesFrom c group s index ps seen taken).1.flatMap names ++ space taken).Nodup := by
  induction ps generalizing index seen taken with
  | nil => simpa [preferencesFrom] using htaken
  | cons p rest ih =>
    simp only [preferencesFrom]
    split
    · exact ih (index + 1) seen taken htaken
    · split
      · exact ih (index + 1) (p.name :: seen) taken htaken
      · next q reported hq =>
        have htail := ih (index + 1) (p.name :: seen) _ (hspace.nodup q taken htaken)
        split
        · next hfree =>
          have hnew := hspace.perm q taken (List.isEmpty_iff.mp hfree)
          refine (List.Perm.nodup_iff ?_).mp htail
          rw [List.flatMap_cons, List.append_assoc]
          exact (hnew.append_left _).trans (List.perm_append_comm_assoc ..)
        · -- a preference that is left out keeps its names taken, which does no harm
          exact htail.sublist ((List.Sublist.refl _).append (hspace.sublist q taken))

end TakenMethods

/-! ## Groups -/

open TakenMethods

theorem nodup_functions {c : Context} {index : Nat} {s : GroupSection} {g : Group}
    {reported : List Diagnostic} (h : group c index s = (some g, reported)) :
    (g.functions c.editor).Nodup := by
  have hfixed : (groupMethods c.editor).Nodup := by cases c.editor <;> decide
  have hall := (isNameSpace_group c.editor).nodup_preferencesFrom index s 0 s.preferences []
    (.initial c.editor) hfixed
  rw [← (isCheckedGroup_of_group h).preferences_eq] at hall
  exact (List.Perm.nodup_iff List.perm_append_comm).mp hall

theorem nodup_editorFunctions {c : Context} {index : Nat} {s : GroupSection} {g : Group}
    {reported : List Diagnostic} (h : group c index s = (some g, reported))
    (heditor : c.editor = true) : g.editorFunctions.Nodup := by
  have hspace : IsNameSpace c.editor Preference.editorFunctions TakenMethods.editor :=
    heditor ▸ isNameSpace_editor
  have hfixed : editorMethods.Nodup := by decide
  have hall := hspace.nodup_preferencesFrom index s 0 s.preferences [] (.initial c.editor) hfixed
  rw [← (isCheckedGroup_of_group h).preferences_eq] at hall
  exact (List.Perm.nodup_iff List.perm_append_comm).mp hall

/-- A field for a serializer is named neither `store` nor `keys`: its name has another last
character. -/
theorem serializerField_not_mem (p : Preference) : p.serializerField ∉ ["store", "keys"] := by
  have hlast : p.serializerField.toList.getLast? = some 'r' := by
    simp [Preference.serializerField]
  intro hmem
  rcases List.mem_pair.mp hmem with heq | heq <;> rw [heq] at hlast <;> revert hlast <;> decide

/-- Fields collide only if methods do. -/
theorem nodup_fields {g : Group} (h : g.keyMethods.Nodup) : g.fields.Nodup := by
  have hserializers : (g.preferences.map Preference.serializerField).Nodup := by
    have hmap : g.preferences.map Preference.serializerField
        = g.keyMethods.map (· ++ "_serializer") := by
      rw [Group.keyMethods, List.map_map]
      rfl
    rw [hmap]
    exact h.map fun _ _ heq => (String.append_left_inj _).mp heq
  have hfixed : ["store", "keys"].Nodup := by decide
  refine List.nodup_append'.mpr ⟨hfixed, ?_, ?_⟩
  · exact hserializers.sublist (List.filter_sublist.map _)
  · intro name hname hfield
    obtain ⟨p, -, rfl⟩ := List.mem_map.mp hfield
    exact serializerField_not_mem p hname

/-- **The names of a group never collide.** Whatever preferences were left out, the functions of the
type of a group are distinct, and so are its fields, the methods that give its keys, and the
functions of its editor if the class has editors. -/
theorem group_names_distinct {c : Context} {index : Nat} {s : GroupSection} {g : Group}
    {reported : List Diagnostic} (h : group c index s = (some g, reported)) :
    (g.functions c.editor).Nodup ∧ (c.editor = true → g.editorFunctions.Nodup) ∧
      g.keyMethods.Nodup ∧ g.fields.Nodup := by
  have hkeys : g.keyMethods.Nodup := (hasKeys_of_group h).methods
  exact ⟨nodup_functions h, nodup_editorFunctions h, hkeys, nodup_fields hkeys⟩

/-- A context with one enum, in which getters have bare names and groups have editors. -/
def themeContext : Context :=
  { types := (universeOf [{ name := "Theme", kind := .enum }]).1
    depth := 10
    fluent := true
    editor := true }

/-- A group in which the getter of `setCount` would have the name of the setter of `count`. -/
def viewSection : GroupSection :=
  { name := "view"
    preferences :=
      [{ name := "count", type := "int" }, { name := "setCount", type := "int" },
        { name := "isOpen", type := "boolean" }, { name := "theme", type := "Theme" },
        { name := "marker", type := "void" }] }

/-- The preference whose getter would collide is left out, and the names of the others are
distinct. -/
theorem group_names_distinct_view :
    ∃ g reported, group themeContext 0 viewSection = (some g, reported) ∧
      Diagnostic.anyError reported = true ∧
      g.keyMethods = ["count", "is_open", "theme", "marker"] ∧
      g.fields = ["store", "keys", "theme_serializer"] ∧
      (g.functions true).Nodup ∧ g.editorFunctions.Nodup ∧ g.keyMethods.Nodup ∧
      g.fields.Nodup := by
  obtain ⟨g, reported, hbuilt, herror, hmethods, hfields⟩ :
      ∃ g reported, group themeContext 0 viewSection = (some g, reported) ∧
        Diagnostic.anyError reported = true ∧
        g.keyMethods = ["count", "is_open", "theme", "marker"] ∧
        g.fields = ["store", "keys", "theme_serializer"] :=
    exists_of_outcome (by decide +kernel)
  obtain ⟨hfunctions, heditor, hkeys, hdistinct⟩ := group_names_distinct hbuilt
  exact ⟨g, reported, hbuilt, herror, hmethods, hfields, hfunctions, heditor rfl, hkeys,
    hdistinct⟩

end TypedPrefs.Blueprint
