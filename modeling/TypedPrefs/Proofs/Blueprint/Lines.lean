import TypedPrefs.Proofs.Blueprint.Collisions
import TypedPrefs.Proofs.Blueprint.DeclarationTexts
import TypedPrefs.Proofs.Persist.Lines

/-!
# Reports on one line

Reports show the names, types, parameters, affixes, paths and strings of a declaration as they are
written; only descriptions are never shown. If all of these are on one line, and if the parsers
refuse on one line what is on one line, so is each report.
-/

namespace TypedPrefs

open Text

/-! ## Diagnostics -/

theorem Location.isOneLine_path (l : Location) : IsOneLine l.path := by
  unfold Location.path
  cases l <;> simp +decide

/-- A diagnostic is on one line exactly if its message and the name at its place are. -/
theorem Diagnostic.isOneLine_display_iff [Parsers] {x : Diagnostic} :
    IsOneLine x.display ↔
      (∀ name ∈ x.location.name?, IsOneLine name) ∧ IsOneLine x.message.wording := by
  obtain ⟨severity, location, message⟩ := x
  have hseverity : IsOneLine severity.name := by cases severity <;> decide
  have hplace : IsOneLine location.display ↔ ∀ name ∈ location.name?, IsOneLine name := by
    have hpath := location.isOneLine_path
    unfold Location.display
    split
    · next hempty =>
      -- only the declaration as a whole has no path, and it has no name either
      have hnone : location.name? = none := by
        unfold Location.path at hempty
        cases location with
        | source => rfl
        | options => rfl
        | _ => simp at hempty
      simp +decide [hnone]
    · split
      · next name hname => simp +decide [hname, hpath]
      · next hnone => simp [hnone, hpath]
  simp +decide [Diagnostic.display, hseverity, hplace]

theorem Diagnostic.isOneLine_display [Parsers] {severity : Severity} {location : Location}
    {message : Message} (hlocation : ∀ name ∈ location.name?, IsOneLine name)
    (hmessage : IsOneLine message.wording) :
    IsOneLine (Diagnostic.mk severity location message).display :=
  Diagnostic.isOneLine_display_iff.mpr ⟨hlocation, hmessage⟩

namespace Declaration

/-! ## Texts that are shown -/

/-- The texts of a preference that reports may show: all but its description. -/
def PreferenceSection.shown (s : PreferenceSection) : List String :=
  [s.name, s.type] ++ s.serializer.toList ++ s.default.toList.flatMap Document.Value.strings

/-- The texts of a group that reports may show. -/
def GroupSection.shown (s : GroupSection) : List String :=
  [s.name, s.keyPrefix, s.keySuffix] ++ s.preferences.flatMap PreferenceSection.shown

/-- The texts of a class that reports may show. -/
def ClassSection.shown (s : ClassSection) : List String :=
  [s.name] ++ s.resources.toList ++ s.groups.flatMap GroupSection.shown

/-- The texts of a type that reports may show. -/
def TypeSection.shown (s : TypeSection) : List String :=
  [s.name] ++ s.params ++ s.supertypes ++ s.constructors.toList.flatten.flatten

end Declaration

/-- The texts of a declaration that reports may show. -/
def Declaration.shown (d : Declaration) : List String :=
  [d.options.runtimePath] ++ d.main.shown ++ d.types.flatMap Declaration.TypeSection.shown

namespace Blueprint

open Declaration Naming

/-! ## What is read -/

/-- What a text stands for is unbroken, also with variables in it. -/
theorem IsReference.isUnbroken {params : List String} {t : TypeRef} (h : IsReference params t) :
    t.IsUnbroken := by
  obtain ⟨text, t', hparse, rfl⟩ := h
  exact TypeRef.isUnbroken_withVariables (TypeRef.isWritten_of_parse hparse).isUnbroken params

/-- A declaration that is read from texts can only have a line feed in its own name. -/
theorem IsReadFrom.isUnbroken {s : TypeSection} {d : TypeDecl} (h : IsReadFrom s d)
    (hname : IsOneLine s.name) : d.IsUnbroken := by
  have hparams : ∀ p ∈ d.params, IsOneLine p.name ∧ ∀ b ∈ p.bounds, b.IsUnbroken := by
    intro p hp
    obtain ⟨text, p', hparse, rfl⟩ := h.params p hp
    have hread := TypeParam.isCanonical_of_parse hparse
    refine ⟨hread.lexed.isWord.isOneLine, List.forall_mem_map.mpr fun b hb => ?_⟩
    exact TypeRef.isUnbroken_withVariables (hread.bounds b hb).isUnbroken _
  refine ⟨h.name_eq ▸ hname, fun p hp => (hparams p hp).1, ?_⟩
  simp only [TypeDecl.references, List.forall_mem_append]
  refine ⟨⟨fun t ht => (h.supertypes t ht).isUnbroken, fun t ht => ?_⟩, fun t ht => ?_⟩
  · obtain ⟨p, hp, hbound⟩ := List.mem_flatMap.mp ht
    exact (hparams p hp).2 t hbound
  · obtain ⟨ts, hts, ht⟩ := List.mem_flatten.mp ht
    exact (h.constructors ts hts t ht).isUnbroken

theorem isUnbroken_universeOf {types : List TypeSection}
    (hnames : ∀ s ∈ types, IsOneLine s.name) : (universeOf types).1.IsUnbroken := by
  intro name d hd
  rcases exists_of_get?_universeOf hd with hbuiltin | ⟨s, hs, hread⟩
  · exact Universe.isUnbroken_builtin name d hbuiltin
  · exact hread.isUnbroken (hnames s hs)

theorem isUnbroken_of_parseType {u : Universe} {s : String} {t : TypeRef}
    (h : parseType u s = .ok t) : t.IsUnbroken := by
  unfold parseType at h
  split at h
  · cases h
  · next t' ht =>
    split at h
    · cases h
    · cases h
      exact (TypeRef.isWritten_of_parse ht).isUnbroken

/-! ## Names that are derived -/

theorem isOneLine_of_isUsable {s : String} (h : isUsable s = true) : IsOneLine s :=
  isOneLine_of_isIdentifier (isIdentifier_of_isUsable h)

theorem Preference.HasUsableNames.isOneLine_methods {p : Preference} (h : p.HasUsableNames)
    (editor : Bool) : ∀ x ∈ p.methods editor, IsOneLine x.2 := by
  have hmethod := isOneLine_of_isUsable h.method
  cases hacc : p.accessors with
  | none =>
    cases editor <;>
      simp [Preference.methods, Preference.functions, Preference.editorFunctions, hacc, hmethod]
  | some a =>
    obtain ⟨hgetter, hsetter, heditor⟩ := h.accessors a hacc
    have hgetter := isOneLine_of_isUsable hgetter
    have hsetter := isOneLine_of_isUsable hsetter
    have heditor := isOneLine_of_isUsable heditor
    cases editor <;>
      simp [Preference.methods, Preference.functions, Preference.editorFunctions, hacc, hmethod,
        hgetter, hsetter, heditor]

variable [Parsers]

theorem isOneLine_accessorClash {g index : Nat} {name accessor group : String}
    (hname : IsOneLine name) (haccessor : IsOneLine accessor) (hgroup : IsOneLine group) :
    IsOneLine (accessorClash g index name accessor group).display := by
  refine Diagnostic.isOneLine_display (by simpa [Location.name?] using hname) ?_
  simp +decide [hname, haccessor, hgroup]

theorem isOneLine_typeClash {index : Nat} {name type : String} (hname : IsOneLine name)
    (htype : IsOneLine type) : IsOneLine (typeClash index name type).display := by
  refine Diagnostic.isOneLine_display (by simpa [Location.name?] using hname) ?_
  simp +decide [hname, htype]

theorem isOneLine_functionClash {index : Nat} {name accessor : String} (hname : IsOneLine name)
    (haccessor : IsOneLine accessor) : IsOneLine (functionClash index name accessor).display := by
  refine Diagnostic.isOneLine_display (by simpa [Location.name?] using hname) ?_
  simp +decide [hname, haccessor]

/-! ## Types -/

variable (hbrief : Parsers.AreBrief)

include hbrief

theorem isOneLine_of_parseParams {texts : List String} (htexts : ∀ text ∈ texts, IsOneLine text)
    {e : InvalidTypeParam} (h : parseParams texts = .error e) : IsOneLine e.message.wording := by
  rw [parseParams_eq_mapM] at h
  obtain ⟨text, htext, hfault⟩ := exists_of_mapM_eq_error h
  exact TypeParam.isOneLine_of_parse hbrief (htexts text htext) hfault

theorem isOneLine_of_parseTypes {params texts : List String}
    (htexts : ∀ text ∈ texts, IsOneLine text) {e : InvalidType}
    (h : parseTypes params texts = .error e) : IsOneLine e.message.wording := by
  rw [parseTypes, map_eq_error_iff, parseAll_eq_mapM] at h
  obtain ⟨text, htext, hfault⟩ := exists_of_mapM_eq_error h
  exact TypeRef.isOneLine_of_parse hbrief (htexts text htext) hfault

theorem isOneLine_of_parseConstructors {params : List String} {texts : List (List String)}
    (htexts : ∀ row ∈ texts, ∀ text ∈ row, IsOneLine text) {e : InvalidType}
    (h : parseConstructors params texts = .error e) : IsOneLine e.message.wording := by
  rw [parseConstructors_eq_mapM] at h
  obtain ⟨row, hrow, hfault⟩ := exists_of_mapM_eq_error h
  exact isOneLine_of_parseTypes hbrief (htexts row hrow) hfault

/-- Why a type cannot be added is told on one line. -/
theorem isOneLine_of_typeDecl {s : TypeSection} (hs : ∀ text ∈ s.shown, IsOneLine text)
    {failure : TypeFailure} (h : typeDecl s = .error failure) :
    IsOneLine failure.message.wording := by
  simp only [TypeSection.shown, List.forall_mem_append, List.forall_mem_singleton] at hs
  obtain ⟨⟨⟨hname, hparams⟩, hsupertypes⟩, hconstructors⟩ := hs
  unfold typeDecl at h
  by_cases hlegal : isTypeName s.name = true
  · rw [hlegal] at h
    rcases bind_eq_error_iff.mp h with hfault | ⟨params, -, h⟩
    · obtain ⟨e, he, rfl⟩ := mapError_eq_error_iff.mp hfault
      exact isOneLine_of_parseParams hbrief hparams he
    rcases bind_eq_error_iff.mp h with hfault | ⟨supertypes, -, h⟩
    · obtain ⟨e, he, rfl⟩ := mapError_eq_error_iff.mp hfault
      exact isOneLine_of_parseTypes hbrief hsupertypes he
    split at h
    · next cs hcs =>
      rcases bind_eq_error_iff.mp h with hfault | ⟨constructors, -, h⟩
      · obtain ⟨e, he, rfl⟩ := mapError_eq_error_iff.mp hfault
        refine isOneLine_of_parseConstructors hbrief (fun row hrow text htext => ?_) he
        exact hconstructors text (List.mem_flatten.mpr ⟨row, by simpa [hcs] using hrow, htext⟩)
      · cases h
    · cases h
  · rw [if_pos (by simpa using hlegal)] at h
    cases h
    unfold TypeFailure.message
    simp +decide [hname]

/-- Why an entry adds no type is told on one line. -/
theorem isOneLine_of_addition {s : TypeSection} (hs : ∀ text ∈ s.shown, IsOneLine text)
    {u : Universe} {message : Message} (h : addition u s = .error message) :
    IsOneLine message.wording := by
  unfold addition at h
  split at h
  · next failure hfailure =>
    cases h
    exact isOneLine_of_typeDecl hbrief hs hfailure
  · next d hd =>
    split at h
    · cases h
      have hname : IsOneLine s.name := hs s.name (by simp [TypeSection.shown])
      rw [name_of_typeDecl hd]
      unfold Universe.duplicateMessage
      simp +decide [hname]
    · cases h

/-- What is reported while types are added is on one line. -/
theorem isOneLine_of_addTypes {types : List TypeSection}
    (htypes : ∀ s ∈ types, ∀ text ∈ s.shown, IsOneLine text) (index : Nat) (u : Universe) :
    ∀ x ∈ (addTypes index types u).2, IsOneLine x.display := by
  induction types generalizing index u with
  | nil => exact nofun
  | cons s rest ih =>
    obtain ⟨hs, hrest⟩ := List.forall_mem_cons.mp htypes
    have hname : IsOneLine s.name := hs s.name (by simp [TypeSection.shown])
    rw [addTypes_cons]
    cases hadd : addition u s with
    | error message =>
      refine List.forall_mem_cons.mpr ⟨?_, ih hrest (index + 1) u⟩
      exact Diagnostic.isOneLine_display (by simpa [Location.name?] using hname)
        (isOneLine_of_addition hbrief hs hadd)
    | ok d => exact ih hrest (index + 1) _

/-- What is wrong with the types of a declaration is reported on one line. -/
theorem isOneLine_of_universeOf {types : List TypeSection}
    (htypes : ∀ s ∈ types, ∀ text ∈ s.shown, IsOneLine text) :
    ∀ x ∈ (universeOf types).2, IsOneLine x.display := by
  have hunbroken : (universeOf types).1.IsUnbroken :=
    isUnbroken_universeOf fun s hs => htypes s hs s.name (by simp [TypeSection.shown])
  have hproblem : ∀ p ∈ (universeOf types).1.problems,
      IsOneLine p.name ∧ IsOneLine p.message := by
    intro p hp
    obtain ⟨d, hd, hname, hfound⟩ := (Universe.mem_problems_iff (isMade_universeOf types)).mp hp
    have hdecl := hunbroken d.name d hd
    have hline : IsOneLine p.name := hname ▸ hdecl.name
    refine ⟨hline, ?_⟩
    rcases hfound with ⟨t, ht, m, hm, hcause⟩ | ⟨hcause, -⟩
    · rw [Universe.Problem.message, hcause]
      exact (hdecl.references t ht).isOneLine_misfit hm
    · rw [Universe.Problem.message, hcause]
      simp +decide [hline]
  refine List.forall_mem_append.mpr ⟨isOneLine_of_addTypes hbrief htypes 0 .builtin, ?_⟩
  refine List.forall_mem_map.mpr fun p hp => ?_
  obtain ⟨hname, hmessage⟩ := hproblem p hp
  refine Diagnostic.isOneLine_display (fun name hlocation => ?_) hmessage
  unfold problemLocation at hlocation
  split at hlocation
  · cases hlocation
    exact hname
  · cases hlocation

/-! ## Preferences -/

variable {c : Context}

theorem isOneLine_of_parseType {u : Universe} {s : String} (hs : IsOneLine s)
    {fault : PreferenceFault} (h : parseType u s = .error fault) :
    IsOneLine fault.message.wording := by
  unfold parseType at h
  split at h
  · next e he =>
    cases h
    exact TypeRef.isOneLine_of_parse hbrief hs he
  · next t ht =>
    split at h
    · next m hm =>
      cases h
      exact (TypeRef.isWritten_of_parse ht).isUnbroken.isOneLine_misfit hm
    · cases h

/-- Why the names or the binding of a preference are not right is told on one line. -/
theorem isOneLine_of_preferenceBinding (hu : c.types.IsUnbroken) {keyPrefix keySuffix : String}
    {s : PreferenceSection} (hs : ∀ text ∈ s.shown, IsOneLine text)
    (hfront : IsOneLine keyPrefix) (hsuffix : IsOneLine keySuffix) {fault : PreferenceFault}
    (h : preferenceBinding c keyPrefix keySuffix s = .error fault) :
    IsOneLine fault.message.wording := by
  simp only [PreferenceSection.shown, List.forall_mem_append, List.forall_mem_cons] at hs
  obtain ⟨⟨⟨hname, htype, -⟩, hserializer⟩, -⟩ := hs
  rcases bind_eq_error_iff.mp h with hfault | ⟨method, -, h⟩
  · rw [preferenceMethod] at hfault
    split at hfault
    · cases hfault
      unfold PreferenceFault.message
      simp +decide [hname]
    · cases hfault
  rcases bind_eq_error_iff.mp h with hfault | ⟨key, -, h⟩
  · rw [preferenceKey] at hfault
    split at hfault
    · cases hfault
    · cases hfault
      unfold PreferenceFault.message
      simp +decide [hname, hfront, hsuffix]
  rcases bind_eq_error_iff.mp h with hfault | ⟨declared, hdeclared, h⟩
  · exact isOneLine_of_parseType hbrief htype hfault
  have hunbroken := isUnbroken_of_parseType hdeclared
  rcases bind_eq_error_iff.mp h with hfault | ⟨given, hgiven, h⟩
  · cases hs : s.serializer with
    | none =>
      rw [hs] at hfault
      cases hfault
    | some text =>
      rw [hs] at hfault
      have hline := hserializer text (by simp [hs])
      exact isOneLine_of_parseType hbrief hline (map_eq_error_iff.mp hfault)
  have hgiven : ∀ t, given = some t → t.IsUnbroken := by
    rintro t rfl
    cases hs : s.serializer with
    | none =>
      rw [hs] at hgiven
      cases hgiven
    | some text =>
      rw [hs] at hgiven
      obtain ⟨t', ht', heq⟩ := map_eq_ok_iff.mp hgiven
      cases heq
      exact isUnbroken_of_parseType ht'
  rcases bind_eq_error_iff.mp h with hfault | ⟨b, -, h⟩
  · obtain ⟨f, hf, rfl⟩ := mapError_eq_error_iff.mp hfault
    have hfault := Binding.isUnbroken_fault_of_resolve hu hunbroken hgiven hf
    exact BindingFault.isOneLine_message hfault hname
  · cases h

/-- What is reported about a preference by itself is on one line. -/
theorem isOneLine_of_preference (hu : c.types.IsUnbroken) {keyPrefix keySuffix : String}
    {s : PreferenceSection} (hs : ∀ text ∈ s.shown, IsOneLine text)
    (hfront : IsOneLine keyPrefix) (hsuffix : IsOneLine keySuffix) (g index : Nat) :
    ∀ x ∈ (preference c g keyPrefix keySuffix index s).2, IsOneLine x.display := by
  have hname : IsOneLine s.name := hs s.name (by simp [PreferenceSection.shown])
  have hplace : ∀ name ∈ (Location.preference g index s.name).name?, IsOneLine name := by
    simpa [Location.name?] using hname
  have hdefault : ∀ v ∈ s.default, ∀ text ∈ v.strings, IsOneLine text := by
    intro v hv text htext
    refine hs text ?_
    simp only [PreferenceSection.shown, List.mem_append, List.mem_flatMap]
    exact .inr ⟨v, by simpa using hv, htext⟩
  have hwarning :
      IsOneLine ("Default value of void preference " ++ s.name ++ " has no effect") := by
    simp +decide [hname]
  simp only [preference]
  split
  · next fault hfault =>
    have hmessage := isOneLine_of_preferenceBinding hbrief hu hs hfront hsuffix hfault
    exact List.forall_mem_singleton.mpr (Diagnostic.isOneLine_display hplace hmessage)
  · next method key b hb =>
    have hwarnings : ∀ x ∈ (if b.kind = .void && s.default.isSome then
        [Diagnostic.warning (.preference g index s.name)
          ("Default value of void preference " ++ s.name ++ " has no effect")]
        else []), IsOneLine x.display := by
      split
      · exact List.forall_mem_singleton.mpr (Diagnostic.isOneLine_display hplace hwarning)
      · simp
    split
    · next fault hfault =>
      refine List.forall_mem_append.mpr ⟨hwarnings, List.forall_mem_singleton.mpr ?_⟩
      exact Diagnostic.isOneLine_display hplace
        (DefaultValue.isOneLine_of_resolve hdefault hfault)
    · exact hwarnings

/-- What the loop over preferences reports is on one line. -/
theorem isOneLine_of_preferencesFrom (hu : c.types.IsUnbroken) {s : GroupSection}
    (hname : IsOneLine s.name) (hfront : IsOneLine s.keyPrefix) (hsuffix : IsOneLine s.keySuffix)
    {ps : List PreferenceSection} (hps : ∀ p ∈ ps, ∀ text ∈ p.shown, IsOneLine text)
    (g index : Nat) (names : List String) (taken : TakenMethods) :
    ∀ x ∈ (preferencesFrom c g s index ps names taken).2, IsOneLine x.display := by
  induction ps generalizing index names taken with
  | nil => simp [preferencesFrom]
  | cons p rest ih =>
    obtain ⟨hp, hrest⟩ := List.forall_mem_cons.mp hps
    have hline : IsOneLine p.name := hp p.name (by simp [PreferenceSection.shown])
    have hown := isOneLine_of_preference hbrief hu hp hfront hsuffix g index
    by_cases hmem : p.name ∈ names
    · rw [preferencesFrom_cons_of_mem hmem]
      refine List.forall_mem_cons.mpr ⟨?_, ih hrest (index + 1) names taken⟩
      refine Diagnostic.isOneLine_display (by simpa [Location.name?] using hline) ?_
      simp +decide [hline]
    · cases hcheck : checkPreference c g s index p with
      | none =>
        rw [preferencesFrom_cons_of_none hmem hcheck]
        exact List.forall_mem_append.mpr ⟨hown, ih hrest (index + 1) _ taken⟩
      | some q =>
        rw [preferencesFrom_cons_of_some hmem hcheck]
        have hdistinct := getter_ne_setter_of_check hcheck
        obtain ⟨declared, given, hchecked⟩ :=
          isCheckedPreference_of_preference (Prod.ext hcheck rfl)
        have hmethods := hchecked.hasUsableNames.isOneLine_methods c.editor
        refine List.forall_mem_append.mpr
          ⟨List.forall_mem_append.mpr ⟨hown, ?_⟩, ih hrest (index + 1) _ _⟩
        refine List.forall_mem_map.mpr fun accessor haccessor => ?_
        obtain ⟨x, hx, rfl, -⟩ := (TakenMethods.mem_collisions_add hdistinct).mp haccessor
        exact isOneLine_accessorClash hline (hmethods x hx) hname

/-! ## Groups -/

/-- What is reported about a group by itself is on one line. -/
theorem isOneLine_of_group (hu : c.types.IsUnbroken) {s : GroupSection}
    (hs : ∀ text ∈ s.shown, IsOneLine text) (index : Nat) :
    ∀ x ∈ (group c index s).2, IsOneLine x.display := by
  simp only [GroupSection.shown, List.forall_mem_append, List.forall_mem_cons] at hs
  obtain ⟨⟨hname, hfront, hsuffix, -⟩, hpreferences⟩ := hs
  have hplace : ∀ name ∈ (Location.group index s.name).name?, IsOneLine name := by
    simpa [Location.name?] using hname
  have hps : ∀ p ∈ s.preferences, ∀ text ∈ p.shown, IsOneLine text :=
    fun p hp text htext => hpreferences text (List.mem_flatMap.mpr ⟨p, hp, htext⟩)
  simp only [group]
  split
  · next fault hfault =>
    refine List.forall_mem_singleton.mpr (Diagnostic.isOneLine_display hplace ?_)
    rw [groupFault?] at hfault
    unfold GroupFault.message
    split at hfault
    · cases hfault
      simp +decide [hname]
    · split at hfault
      · cases hfault
        simp +decide [hfront]
      · split at hfault
        · cases hfault
          simp +decide [hsuffix]
        · cases hfault
  · refine List.forall_mem_append.mpr ⟨?_, ?_⟩
    · split
      · refine List.forall_mem_singleton.mpr (Diagnostic.isOneLine_display hplace ?_)
        simp +decide [hname]
      · simp
    · exact isOneLine_of_preferencesFrom hbrief hu hname hfront hsuffix hps index 0 [] _

/-- What the loop over groups reports is on one line. -/
theorem isOneLine_of_groupsFrom (hu : c.types.IsUnbroken) {ss : List GroupSection}
    (hss : ∀ s ∈ ss, ∀ text ∈ s.shown, IsOneLine text) (index : Nat) (names items : List String) :
    ∀ x ∈ (groupsFrom c index ss names items).2, IsOneLine x.display := by
  induction ss generalizing index names items with
  | nil => simp [groupsFrom]
  | cons s rest ih =>
    obtain ⟨hs, hrest⟩ := List.forall_mem_cons.mp hss
    have hline : IsOneLine s.name := hs s.name (by simp [GroupSection.shown])
    have hown := isOneLine_of_group hbrief hu hs index
    by_cases hmem : s.name ∈ names
    · rw [groupsFrom_cons_of_mem hmem]
      refine List.forall_mem_cons.mpr ⟨?_, ih hrest (index + 1) names items⟩
      refine Diagnostic.isOneLine_display (by simpa [Location.name?] using hline) ?_
      simp +decide [hline]
    · cases hcheck : checkGroup c index s with
      | none =>
        rw [groupsFrom_cons_of_none hmem hcheck]
        exact List.forall_mem_append.mpr ⟨hown, ih hrest (index + 1) _ items⟩
      | some g =>
        rw [groupsFrom_cons_of_some hmem hcheck]
        have husable := (isCheckedGroup_of_group (Prod.ext hcheck rfl)).hasUsableNames
        refine List.forall_mem_append.mpr
          ⟨List.forall_mem_append.mpr ⟨hown, ?_⟩, ih hrest (index + 1) _ _⟩
        split
        · have haccessor := isOneLine_of_isUsable husable.accessor
          exact List.forall_mem_singleton.mpr (isOneLine_functionClash hline haccessor)
        · refine List.forall_mem_map.mpr fun type htype => ?_
          have hitem := ((mem_clashes_iff (nodup_itemNames g)).mp htype).1
          exact isOneLine_typeClash hline (isOneLine_of_isUsable (husable.items type hitem))

/-! ## The class -/

theorem isOneLine_of_runtimePath {o : Options} (h : IsOneLine o.runtimePath) :
    ∀ x ∈ (runtimePath o).2, IsOneLine x.display := by
  unfold runtimePath
  split
  · simp
  · refine List.forall_mem_singleton.mpr (Diagnostic.isOneLine_display ?_ ?_)
    · simp [Location.name?]
    · have hwords : IsOneLine (Refused.path o.runtimePath).words := hbrief.path h
      simp +decide [Message.wording, h, hwords]

theorem isOneLine_of_resourcesType (u : Universe) {s : ClassSection} (hname : IsOneLine s.name)
    (hresources : ∀ text ∈ s.resources.toList, IsOneLine text) :
    ∀ x ∈ (resourcesType u s).2, IsOneLine x.display := by
  unfold resourcesType
  split
  · simp
  · next text htext =>
    split
    · simp
    · next fault hfault =>
      have hline := hresources text (by simp [htext])
      refine List.forall_mem_singleton.mpr
        (Diagnostic.isOneLine_display ?_ (isOneLine_of_parseType hbrief hline hfault))
      simpa [Location.name?] using hname

/-- What is reported about a declaration is on one line if the texts that can be shown are. -/
theorem isOneLine_of_build {d : Declaration} (hd : ∀ text ∈ d.shown, IsOneLine text)
    (depth : Nat) : ∀ x ∈ (build depth d).2, IsOneLine x.display := by
  simp only [Declaration.shown, ClassSection.shown, List.forall_mem_append,
    List.forall_mem_singleton] at hd
  obtain ⟨⟨hpath, ⟨hname, hresources⟩, hgroups⟩, htypes⟩ := hd
  have htypes : ∀ s ∈ d.types, ∀ text ∈ s.shown, IsOneLine text :=
    fun s hs text htext => htypes text (List.mem_flatMap.mpr ⟨s, hs, htext⟩)
  have hgroups : ∀ s ∈ d.main.groups, ∀ text ∈ s.shown, IsOneLine text :=
    fun s hs text htext => hgroups text (List.mem_flatMap.mpr ⟨s, hs, htext⟩)
  have hunbroken : (universeOf d.types).1.IsUnbroken :=
    isUnbroken_universeOf fun s hs => htypes s hs s.name (by simp [TypeSection.shown])
  have hplace : ∀ name ∈ (Location.main d.main.name).name?, IsOneLine name := by
    simpa [Location.name?] using hname
  have hpathReports := isOneLine_of_runtimePath hbrief hpath
  have htypeReports := isOneLine_of_universeOf hbrief htypes
  have hresourceReports := isOneLine_of_resourcesType hbrief (universeOf d.types).1 hname hresources
  simp only [build]
  split
  · simp only [List.forall_mem_append, List.forall_mem_singleton]
    refine ⟨⟨hpathReports, htypeReports⟩, Diagnostic.isOneLine_display hplace ?_⟩
    simp +decide [hname]
  · simp only [List.forall_mem_append]
    exact ⟨⟨⟨hpathReports, htypeReports⟩, hresourceReports⟩,
      isOneLine_of_groupsFrom hbrief hunbroken hgroups 0 [] _⟩

end Blueprint

end TypedPrefs
