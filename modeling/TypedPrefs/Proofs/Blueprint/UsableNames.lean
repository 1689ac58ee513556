import Mathlib.Data.List.Basic
import TypedPrefs.Proofs.Blueprint.Checked
import TypedPrefs.Proofs.Naming.Identifiers

/-!
# Names that can be used

Generated items take their names from declared ones: as they are, in another style, or with a text
in front or behind. Some of these names are checked one by one, and the others are joined with an
underscore, which no reserved word survives. Keys are joined from parts that have been checked, so
the check of the whole key never fails.
-/

namespace TypedPrefs.Blueprint

open Declaration Naming

/-! ## Preferences -/

theorem isUsable_of_preferenceMethod {name method : String}
    (h : preferenceMethod name = .ok method) :
    isIdentifier name = true ∧ isUsable method = true := by
  rw [preferenceMethod] at h
  split at h
  · cases h
  · next hlegal =>
    cases h
    simp only [Bool.or_eq_true, Bool.not_eq_true', not_or, Bool.not_eq_false] at hlegal
    exact ⟨hlegal.1.1, hlegal.2⟩

/-- The names of a preference can name generated items. -/
structure Preference.HasUsableNames (p : Preference) : Prop where
  method : isUsable p.method = true
  serializerField : isUsable p.serializerField = true
  accessors : ∀ a, p.accessors = some a →
    isUsable a.getter = true ∧ isUsable a.setter = true ∧ isUsable a.editorSetter = true

theorem isUsable_accessorsOf {c : Context} {method : String} {b : Binding} {a : Accessors}
    (hmethod : isUsable method = true) (h : accessorsOf c method b = some a) :
    isUsable a.getter = true ∧ isUsable a.setter = true ∧ isUsable a.editorSetter = true := by
  rw [accessorsOf] at h
  split at h
  · cases h
  · cases h
    exact ⟨isUsable_getterName hmethod _ _, isUsable_setterName hmethod,
      isUsable_editorSetterName hmethod _⟩

theorem IsCheckedPreference.hasUsableNames {c : Context} {keyPrefix keySuffix : String}
    {index : Nat} {s : PreferenceSection} {declared : TypeRef} {given : Option TypeRef}
    {p : Preference} (h : IsCheckedPreference c keyPrefix keySuffix index s declared given p) :
    p.HasUsableNames := by
  obtain ⟨-, hmethod⟩ := isUsable_of_preferenceMethod h.method
  refine ⟨hmethod, ?_, fun a ha => isUsable_accessorsOf hmethod (h.accessors_eq ▸ ha)⟩
  exact isUsable_append (isIdentifier_of_isUsable hmethod) (isIdentifier_affix _ (by simp))
    (by simp)

/-! ## Groups -/

/-- The names of a group can name generated items, and so can those of its preferences. -/
structure Group.HasUsableNames (g : Group) : Prop where
  accessor : isUsable g.accessor = true
  items : ∀ name ∈ g.itemNames, isUsable name = true
  cellField : isUsable g.cellField = true
  preferences : ∀ p ∈ g.preferences, p.HasUsableNames

/-- What is checked of the names of a group. -/
structure HasLegalNames (s : GroupSection) : Prop where
  generated : ∀ name ∈ [snakeCase s.name, pascalCase s.name, keysTypeName (pascalCase s.name),
    editorTypeName (pascalCase s.name)], isUsable name = true
  keyPrefix : s.keyPrefix = "" ∨ isIdentifier s.keyPrefix = true
  keySuffix : isIdentifierSuffix s.keySuffix = true

theorem hasLegalNames_of_groupFault? {s : GroupSection} (h : groupFault? s = none) :
    HasLegalNames s := by
  rw [groupFault?] at h
  split at h
  · cases h
  · next hname =>
    split at h
    · cases h
    · next hfront =>
      split at h
      · cases h
      · next hsuffix =>
        simp only [Bool.or_eq_true, Bool.not_eq_true', not_or, Bool.not_eq_false] at hname
        refine ⟨List.all_eq_true.mp hname.2, ?_, by simpa using hsuffix⟩
        by_cases hempty : s.keyPrefix = ""
        · exact .inl hempty
        · exact .inr (by simpa [hempty] using hfront)

theorem IsCheckedGroup.hasUsableNames {c : Context} {index : Nat} {s : GroupSection} {g : Group}
    (h : IsCheckedGroup c index s g) : g.HasUsableNames := by
  have hlegal := (hasLegalNames_of_groupFault? h.fault).generated
  have haccessor : isUsable g.accessor = true := h.accessor_eq ▸ hlegal _ List.mem_cons_self
  refine ⟨haccessor, fun name hname => ?_, ?_, fun p hp => ?_⟩
  · rw [Group.itemNames, h.typeName_eq] at hname
    exact hlegal name (List.mem_cons_of_mem _ hname)
  · exact isUsable_append (isIdentifier_of_isUsable haccessor) (isIdentifier_affix _ (by simp))
      (by simp)
  · obtain ⟨i, s', declared, given, -, hchecked⟩ := h.exists_of_mem hp
    exact hchecked.hasUsableNames

/-! ## The class -/

/-- The names of a class can name generated items, and so can those of its groups. -/
structure Class.HasUsableNames (m : Class) : Prop where
  modules : ∀ name ∈ m.modules, isUsable name = true
  className : isUsable m.className = true
  stateType : isUsable m.stateType = true
  stateStatic : isUsable m.stateStatic = true
  groups : ∀ g ∈ m.groups, g.HasUsableNames

/-- A class is named by the last part of its qualified name, behind its modules. -/
theorem segments_of_className? {name last : String} {modules : List String}
    (h : className? name = some (modules, last)) :
    Text.splitAtChar '.' name = modules ++ [last] ∧
      (∀ part ∈ modules ++ [last], isUsable part = true) ∧
      isUsable (stateTypeName last) = true ∧ isUsable (stateStaticName last) = true := by
  rw [className?] at h
  split at h
  · cases h
  · next last' hlast =>
    split at h
    · next hlegal =>
      cases h
      simp only [Bool.and_eq_true, Bool.not_eq_true', List.any_eq_false] at hlegal
      obtain ⟨⟨hparts, hfree⟩, hstate⟩ := hlegal
      have husable := List.all_eq_true.mp hstate
      have hsegments := List.dropLast_append_getLast? _ hlast
      refine ⟨hsegments.symm, fun part hpart => ?_, husable _ List.mem_cons_self,
        husable _ (List.mem_cons_of_mem _ List.mem_cons_self)⟩
      rw [hsegments] at hpart
      rw [isUsable, List.all_eq_true.mp hparts part hpart]
      simpa using hfree part hpart
    · cases h

theorem hasUsableNames_of_build {depth : Nat} {d : Declaration} {m : Class} {ds : List Diagnostic}
    (h : build depth d = (some m, ds)) : m.HasUsableNames := by
  have hchecked := isCheckedClass_of_build h
  obtain ⟨-, hparts, hstateType, hstateStatic⟩ := segments_of_className? hchecked.className
  obtain ⟨hmodules, hclass⟩ := List.forall_mem_append.mp hparts
  refine ⟨hmodules, hclass _ (List.mem_singleton_self _), hstateType, hstateStatic,
    fun g hg => ?_⟩
  obtain ⟨i, s, reported, -, hkept, -⟩ := hchecked.exists_of_mem hg
  exact (isCheckedGroup_of_group hkept).hasUsableNames

/-! ## Keys -/

/-- A key between an accepted prefix and an accepted suffix is an identifier. -/
theorem isIdentifier_key {keyPrefix keySuffix name : String}
    (hfront : keyPrefix = "" ∨ isIdentifier keyPrefix = true) (hname : isIdentifier name = true)
    (hsuffix : isIdentifierSuffix keySuffix = true) :
    isIdentifier (keyPrefix ++ name ++ keySuffix) = true := by
  apply isIdentifier_append _ hsuffix
  rcases hfront with rfl | hfront
  · rwa [String.empty_append]
  · exact isIdentifier_append_of_isIdentifier hfront hname

/-- A text begins with some characters. -/
def Begins (cs : List Char) (s : String) : Prop := cs <+: s.toList

theorem Begins.literal (cs ds : List Char) : Begins cs (String.ofList (cs ++ ds)) := by
  rw [Begins, String.toList_ofList]
  exact List.prefix_append cs ds

theorem Begins.append {cs : List Char} {s t : String} (h : Begins cs s) : Begins cs (s ++ t) := by
  rw [Begins, String.toList_append]
  exact h.trans (List.prefix_append _ _)

theorem Begins.unique {cs ds : List Char} {s : String} (hc : Begins cs s) (hd : Begins ds s)
    (hlength : cs.length = ds.length) : cs = ds :=
  (List.prefix_of_prefix_length_le hc hd (Nat.le_of_eq hlength)).eq_of_length hlength

/-- What the parsers say comes behind the text of a message. -/
theorem Begins.wording [Parsers] {cs : List Char} {m : Message} (h : Begins cs m.text) :
    Begins cs m.wording := by
  unfold Message.wording
  split
  · exact h
  · exact h.append

/-- The beginnings of the faults of types, bindings and defaults. -/
def faultBeginnings : List (List Char) :=
  [['I', 'n'], ['U', 'n'], ['W', 'r'], ['N', 'o'], ['E', 'n'], ['i', 'n']]

theorem begins_defaultFault (f : DefaultFault) : Begins ['I', 'n'] f.message := by
  unfold DefaultFault.message
  cases f with
  | mismatch kind value => exact .append (.append (.append (.literal _ _)))
  | notAnInteger kind text => exact .append (.append (.append (.append (.literal _ _))))
  | notAString element => exact .append (.append (.literal _ _))
  | outOfRange kind i low high =>
    exact .append (.append (.append (.append (.append (.append (.append (.literal _ _)))))))
  | floatOutOfRange x => exact .append (.append (.literal _ _))

theorem begins_invalidType (e : InvalidType) : Begins ['i', 'n'] e.message.text := by
  have hfront : Begins ['i', 'n'] ("invalid type expression '" ++ e.expression ++ "': ") :=
    .append (.append (.literal _ _))
  unfold InvalidType.message Message.because
  split
  · exact hfront.append
  · exact hfront

theorem begins_misfit (m : TypeMisfit) : ∃ cs ∈ faultBeginnings, Begins cs m.message := by
  unfold TypeMisfit.message
  cases m with
  | unknown name => exact ⟨['U', 'n'], by decide, .append (.literal _ _)⟩
  | arity name expected found =>
    exact ⟨['W', 'r'], by decide, .append (.append (.append (.append (.append (.literal _ _)))))⟩

theorem begins_bindingFault (f : BindingFault) (preference : String) :
    ∃ cs ∈ faultBeginnings, Begins cs (f.message preference) := by
  unfold BindingFault.message
  cases f with
  | unsupported t => exact ⟨['U', 'n'], by decide, .append (.literal _ _)⟩
  | notDeclared serializer =>
    exact ⟨['I', 'n'], by decide, .append (.append (.append (.literal _ _)))⟩
  | unknown name => exact begins_misfit (.unknown name)
  | bound serializer declared boxed param =>
    exact ⟨['I', 'n'], by decide, .append (.append (.append (.append (.append (.append (.append
      (.append (.append (.literal _ _)))))))))⟩
  | unidentified serializer =>
    exact ⟨['U', 'n'], by decide, .append (.append (.append (.literal _ _)))⟩
  | incompatible serializer declared =>
    exact ⟨['I', 'n'], by decide, .append (.append (.append (.append (.append (.literal _ _)))))⟩
  | noConstructor serializer => exact ⟨['N', 'o'], by decide, .append (.literal _ _)⟩
  | endless t => exact ⟨['E', 'n'], by decide, .append (.literal _ _)⟩

/-- These faults have no other beginnings. -/
theorem not_begins_of_fault {ds : List Char} {message : String}
    (h : ∃ cs ∈ faultBeginnings, Begins cs message) (hds : ds ∉ faultBeginnings)
    (hlength : ds.length = 2) : ¬ Begins ds message := by
  obtain ⟨cs, hcs, hbegins⟩ := h
  have hpairs : ∀ cs ∈ faultBeginnings, cs.length = 2 := by decide
  intro hreport
  rw [hbegins.unique hreport ((hpairs cs hcs).trans hlength.symm)] at hcs
  exact hds hcs

/-- Whether a message begins like the one about a key that is no identifier, for some parsers. -/
def IsKeyReport (message : Message) : Prop :=
  ∃ _ : Parsers, "Illegal preference key: ".toList <+: message.wording.toList

theorem not_isKeyReport_of_begins {cs : List Char} {message : Message}
    (h : Begins cs message.text) (hlength : cs.length = 2) (hne : cs ≠ ['I', 'l']) :
    ¬ IsKeyReport message := by
  rintro ⟨_, hkey⟩
  have hbegins : Begins ['I', 'l'] message.wording :=
    (Begins.literal ['I', 'l'] _ : Begins ['I', 'l'] "Illegal preference key: ").trans hkey
  exact hne (h.wording.unique hbegins hlength)

theorem not_isKeyReport_of_fault {message : Message}
    (h : ∃ cs ∈ faultBeginnings, Begins cs message.text) : ¬ IsKeyReport message := by
  obtain ⟨cs, hcs, hbegins⟩ := h
  have hothers : ∀ cs ∈ faultBeginnings, cs.length = 2 ∧ cs ≠ ['I', 'l'] := by decide
  exact not_isKeyReport_of_begins hbegins (hothers cs hcs).1 (hothers cs hcs).2

/-- Only the fault of a key is worded like that. -/
theorem isKeyReport_iff (f : PreferenceFault) :
    IsKeyReport f.message ↔ ∃ key, f = .illegalKey key := by
  unfold PreferenceFault.message
  cases f with
  | illegalKey key =>
    refine iff_of_true ⟨.plain, ?_⟩ ⟨key, rfl⟩
    change "Illegal preference key: ".toList <+: ("Illegal preference key: " ++ key).toList
    rw [String.toList_append]
    exact List.prefix_append _ _
  | illegalName name => exact iff_of_false (by simp [IsKeyReport]) nofun
  | type e =>
    exact iff_of_false (not_isKeyReport_of_begins (begins_invalidType e) rfl (by decide)) nofun
  | misfit m => exact iff_of_false (not_isKeyReport_of_fault (begins_misfit m)) nofun
  | binding preference f =>
    exact iff_of_false (not_isKeyReport_of_fault (begins_bindingFault f preference)) nofun
  | default f =>
    exact iff_of_false (not_isKeyReport_of_begins (begins_defaultFault f) rfl (by decide)) nofun

/-- With an accepted prefix and suffix no fault is one of the key: the name is checked first. -/
theorem preferenceBinding_ne_illegalKey {c : Context} {keyPrefix keySuffix : String}
    {s : PreferenceSection} (hfront : keyPrefix = "" ∨ isIdentifier keyPrefix = true)
    (hsuffix : isIdentifierSuffix keySuffix = true) (key : String) :
    preferenceBinding c keyPrefix keySuffix s ≠ .error (.illegalKey key) := by
  intro h
  rcases bind_eq_error_iff.mp h with h | ⟨method, hmethod, h⟩
  · rw [preferenceMethod] at h
    split at h <;> cases h
  rcases bind_eq_error_iff.mp h with h | ⟨key', -, h⟩
  · obtain ⟨hname, -⟩ := isUsable_of_preferenceMethod hmethod
    rw [preferenceKey, if_pos (isIdentifier_key hfront hname hsuffix)] at h
    cases h
  -- types and bindings have faults of their own
  have htype : ∀ text, parseType c.types text ≠ .error (.illegalKey key) := by
    intro text htext
    rw [parseType] at htext
    split at htext
    · cases htext
    · split at htext <;> cases htext
  rcases bind_eq_error_iff.mp h with h | ⟨declared, -, h⟩
  · exact htype _ h
  rcases bind_eq_error_iff.mp h with h | ⟨given, -, h⟩
  · cases hserializer : s.serializer with
    | none =>
      rw [hserializer] at h
      cases h
    | some text =>
      rw [hserializer] at h
      exact htype _ (map_eq_error_iff.mp h)
  rcases bind_eq_error_iff.mp h with h | ⟨b, -, h⟩
  · obtain ⟨f, -, hf⟩ := mapError_eq_error_iff.mp h
    cases hf
  · cases h

/-- What is reported about a preference by itself: that its default has no effect, or why its names,
its binding or its default are not right. -/
theorem of_mem_preference {c : Context} {g index : Nat} {keyPrefix keySuffix : String}
    {s : PreferenceSection} {e : Diagnostic}
    (he : e ∈ (preference c g keyPrefix keySuffix index s).2) :
    e = .warning (.preference g index s.name)
        ("Default value of void preference " ++ s.name ++ " has no effect") ∨
      ∃ fault : PreferenceFault, e = .error (.preference g index s.name) fault.message ∧
        (preferenceBinding c keyPrefix keySuffix s = .error fault ∨ ∃ f, fault = .default f) := by
  simp only [preference] at he
  cases hbinding : preferenceBinding c keyPrefix keySuffix s with
  | error fault =>
    simp only [hbinding, List.mem_singleton] at he
    exact .inr ⟨fault, he, .inl rfl⟩
  | ok found =>
    obtain ⟨method, key, b⟩ := found
    have hwarning : e ∈ (if b.kind = .void && s.default.isSome then
        [Diagnostic.warning (.preference g index s.name)
          ("Default value of void preference " ++ s.name ++ " has no effect")]
        else []) →
        e = .warning (.preference g index s.name)
          ("Default value of void preference " ++ s.name ++ " has no effect") := by
      intro he
      split at he
      · exact List.mem_singleton.mp he
      · cases he
    cases hdefault : DefaultValue.resolve b.kind s.default with
    | error fault =>
      simp only [hbinding, hdefault, List.mem_append, List.mem_singleton] at he
      exact he.imp hwarning fun he => ⟨.default fault, he, .inr ⟨fault, rfl⟩⟩
    | ok default =>
      simp only [hbinding, hdefault] at he
      exact .inl (hwarning he)

theorem not_isKeyReport_of_mem_preference (c : Context) (g index : Nat)
    {keyPrefix keySuffix : String} (s : PreferenceSection)
    (hfront : keyPrefix = "" ∨ isIdentifier keyPrefix = true)
    (hsuffix : isIdentifierSuffix keySuffix = true) :
    ∀ e ∈ (preference c g keyPrefix keySuffix index s).2, ¬ IsKeyReport e.message := by
  intro e he
  rcases of_mem_preference he with rfl | ⟨fault, rfl, hfault⟩
  · have hbegins : Begins ['D', 'e']
        ("Default value of void preference " ++ s.name ++ " has no effect") :=
      .append (.append (.literal _ _))
    exact not_isKeyReport_of_begins hbegins rfl (by decide)
  · change ¬ IsKeyReport fault.message
    rw [isKeyReport_iff]
    rintro ⟨key, rfl⟩
    rcases hfault with hbinding | ⟨f, hf⟩
    · exact preferenceBinding_ne_illegalKey hfront hsuffix key hbinding
    · cases hf

/-- The loop over preferences adds only reports about names that are taken. -/
theorem not_isKeyReport_of_mem_preferencesFrom {c : Context} {g : Nat} {s : GroupSection}
    (hs : HasLegalNames s) (index : Nat) (ps : List PreferenceSection) (names : List String)
    (taken : TakenMethods) :
    ∀ e ∈ (preferencesFrom c g s index ps names taken).2, ¬ IsKeyReport e.message := by
  induction ps generalizing index names taken with
  | nil => simp [preferencesFrom]
  | cons p rest ih =>
    have hpreference :=
      not_isKeyReport_of_mem_preference c g index p hs.keyPrefix hs.keySuffix
    simp only [preferencesFrom]
    split
    · have hbegins : Begins ['D', 'u'] ("Duplicate preference name: " ++ p.name) :=
        .append (.literal _ _)
      rw [List.forall_mem_cons]
      exact ⟨not_isKeyReport_of_begins hbegins rfl (by decide), ih (index + 1) names taken⟩
    · split
      · next reported hreported =>
        rw [hreported] at hpreference
        exact List.forall_mem_append.mpr ⟨hpreference, ih (index + 1) (p.name :: names) taken⟩
      · next checked reported hreported =>
        rw [hreported] at hpreference
        have hrest := ih (index + 1) (p.name :: names) (taken.add c.editor checked).1
        split
        · exact List.forall_mem_append.mpr ⟨hpreference, hrest⟩
        · refine List.forall_mem_append.mpr ⟨List.forall_mem_append.mpr ⟨hpreference, ?_⟩, hrest⟩
          intro e he
          obtain ⟨name, -, rfl⟩ := List.mem_map.mp he
          have hbegins : Begins ['P', 'r'] ("Preference " ++ p.name ++ " generates accessor " ++
              name ++ " which already exists in group " ++ s.name) :=
            .append (.append (.append (.append (.append (.literal _ _)))))
          exact not_isKeyReport_of_begins hbegins rfl (by decide)

/-- A group reports no key: its prefix and its suffix are checked before its preferences. -/
theorem not_isKeyReport_of_mem_group (c : Context) (index : Nat) (s : GroupSection) :
    ∀ e ∈ (group c index s).2, ¬ IsKeyReport e.message := by
  intro e he
  simp only [group] at he
  split at he
  · next fault _ =>
    obtain rfl := List.mem_singleton.mp he
    unfold GroupFault.message
    cases fault <;> simp [IsKeyReport, Diagnostic.error]
  · next hfault =>
    rcases List.mem_append.mp he with he | he
    · split at he
      · have hbegins : Begins ['P', 'r']
            ("Preference group " ++ s.name ++ " declares no preferences") :=
          .append (.append (.literal _ _))
        obtain rfl := List.mem_singleton.mp he
        exact not_isKeyReport_of_begins hbegins rfl (by decide)
      · cases he
    · exact not_isKeyReport_of_mem_preferencesFrom (hasLegalNames_of_groupFault? hfault) _ _ _ _ e
        he

end TypedPrefs.Blueprint
