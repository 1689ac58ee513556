import TypedPrefs.Proofs.Blueprint.ProblemPlaces

/-!
# Declarations and their texts

A type is declared by texts: its name, its parameters with their bounds, its supertypes, and what
its constructors take. Each of its references is one that was read off a text, in which bare names
of parameters became variables. All declarations that are not built in are of this form.
-/

namespace TypedPrefs.Blueprint

open Declaration

variable {s : TypeSection} {d : TypeDecl}

/-- A reference that a text stands for, where some names are parameters. -/
def IsReference (params : List String) (t : TypeRef) : Prop :=
  ∃ text t', TypeRef.parse text = .ok t' ∧ t = t'.withVariables params

/-- A declaration that the texts of an entry stand for. -/
structure IsReadFrom (s : TypeSection) (d : TypeDecl) : Prop where
  name_eq : d.name = s.name
  params : ∀ p ∈ d.params, ∃ text p', TypeParam.parse text = .ok p' ∧
    p = p'.withVariables d.paramNames
  supertypes : ∀ t ∈ d.supertypes, IsReference d.paramNames t
  constructors : ∀ ts ∈ d.constructors, ∀ t ∈ ts, IsReference d.paramNames t

theorem parseParams_eq_mapM (texts : List String) :
    parseParams texts = texts.mapM TypeParam.parse := by
  refine eq_mapM_of_steps TypeParam.parse parseParams rfl (fun h => ?_) (fun h => ?_) texts
  · rw [parseParams, h]
  · rw [parseParams, h]

theorem parseAll_eq_mapM (texts : List String) :
    TypeRef.parseAll texts = texts.mapM TypeRef.parse := by
  refine eq_mapM_of_steps TypeRef.parse TypeRef.parseAll rfl (fun h => ?_) (fun h => ?_) texts
  · rw [TypeRef.parseAll, h]
  · rw [TypeRef.parseAll, h]

theorem parseConstructors_eq_mapM (params : List String) (texts : List (List String)) :
    parseConstructors params texts = texts.mapM (parseTypes params) := by
  refine eq_mapM_of_steps _ (parseConstructors params) rfl (fun h => ?_) (fun h => ?_) texts
  · rw [parseConstructors, h]
  · rw [parseConstructors, h]

theorem isReference_of_parseTypes {params texts : List String} {ts : List TypeRef}
    (h : parseTypes params texts = .ok ts) : ∀ t ∈ ts, IsReference params t := by
  obtain ⟨read, hread, rfl⟩ := map_eq_ok_iff.mp h
  rw [parseAll_eq_mapM] at hread
  intro t ht
  obtain ⟨t', ht', rfl⟩ := List.mem_map.mp ht
  obtain ⟨text, -, htext⟩ := exists_of_mapM_eq_ok hread t' ht'
  exact ⟨text, t', htext, rfl⟩

theorem isReference_of_parseConstructors {params : List String} {texts : List (List String)}
    {cs : List (List TypeRef)} (h : parseConstructors params texts = .ok cs) :
    ∀ ts ∈ cs, ∀ t ∈ ts, IsReference params t := by
  rw [parseConstructors_eq_mapM] at h
  intro ts hts
  obtain ⟨row, -, hrow⟩ := exists_of_mapM_eq_ok h ts hts
  exact isReference_of_parseTypes hrow

theorem isReadFrom_of_typeDecl (h : typeDecl s = .ok d) : IsReadFrom s d := by
  have hname := name_of_typeDecl h
  unfold typeDecl at h
  by_cases hlegal : isTypeName s.name = true
  swap
  · rw [if_pos (by simpa using hlegal)] at h
    cases h
  rw [hlegal] at h
  obtain ⟨ps, hps, h⟩ := bind_eq_ok_iff.mp h
  obtain ⟨supertypes, hsupertypes, h⟩ := bind_eq_ok_iff.mp h
  rw [mapError_eq_ok_iff, parseParams_eq_mapM] at hps
  have hsupertypes := isReference_of_parseTypes (mapError_eq_ok_iff.mp hsupertypes)
  -- variables change bounds but no names
  have hnames : (ps.map (TypeParam.withVariables (ps.map TypeParam.name))).map TypeParam.name =
      ps.map TypeParam.name := by
    rw [List.map_map]
    rfl
  have hparams : ∀ p ∈ ps.map (TypeParam.withVariables (ps.map TypeParam.name)), ∃ text p',
      TypeParam.parse text = .ok p' ∧ p = p'.withVariables (ps.map TypeParam.name) := by
    intro p hp
    obtain ⟨p', hp', rfl⟩ := List.mem_map.mp hp
    obtain ⟨text, -, htext⟩ := exists_of_mapM_eq_ok hps p' hp'
    exact ⟨text, p', htext, rfl⟩
  split at h
  · obtain ⟨constructors, hconstructors, h⟩ := bind_eq_ok_iff.mp h
    have hconstructors := isReference_of_parseConstructors (mapError_eq_ok_iff.mp hconstructors)
    cases h
    refine ⟨hname, ?_, ?_, ?_⟩
    all_goals rwa [TypeDecl.paramNames, hnames]
  · cases h
    refine ⟨hname, ?_, ?_, ?_⟩
    · rwa [TypeDecl.paramNames, hnames]
    · rwa [TypeDecl.paramNames, hnames]
    · -- a constructor that is not written takes nothing
      intro ts hts t ht
      cases hkind : s.kind with
      | plain =>
        obtain rfl : ts = [] := by simpa [hkind, DeclKind.constructors] using hts
        cases ht
      | interface => simp [hkind, DeclKind.constructors] at hts
      | enum => simp [hkind, DeclKind.constructors] at hts

/-- A declaration is built in, or an entry has its texts. -/
theorem exists_of_get?_universeOf {types : List TypeSection} {name : String}
    (h : (universeOf types).1.get? name = some d) :
    Universe.builtin.get? name = some d ∨ ∃ s ∈ types, IsReadFrom s d := by
  refine ((get?_addTypes 0 types .builtin).mp h).imp_right ?_
  rintro ⟨i, hi, -⟩
  obtain ⟨s, hs, hd⟩ := hi.entry
  exact ⟨s, List.mem_of_getElem? hs, isReadFrom_of_typeDecl hd⟩

end TypedPrefs.Blueprint
