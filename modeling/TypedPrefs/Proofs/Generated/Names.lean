import TypedPrefs.Generation
import TypedPrefs.Proofs.Blueprint.Accounting
import TypedPrefs.Proofs.Blueprint.UsableNames
import TypedPrefs.Proofs.Generated.Segments
import TypedPrefs.Proofs.Persist.Literals
import TypedPrefs.Proofs.Persist.Resolution
import TypedPrefs.Proofs.Types.Canonical

/-!
# Names and numbers in generated code

Whatever passes the checks can be written, with one exception: names of types are checked by another
grammar than all other names, one that allows identifiers behind the mark of raw ones. Such a name
stops the generation although nothing was reported.
-/

namespace TypedPrefs

open Blueprint Code Declaration Naming

/-! ## Types of serializers -/

/-- What a serializer is made from is written as in a declaration. -/
def Construction.IsWritten : Construction → Prop
  | .none => True
  | .byDefault serializer => serializer.IsWritten
  | .fromToken serializer token => serializer.IsWritten ∧ token.IsWritten

namespace Binding

/-- Completion and boxing keep types as declarations write them. -/
theorem isKept_isWritten (u : Universe) : IsKept u TypeRef.IsWritten where
  enumSerializer := .named (by decide +kernel)
  boxed _ h := h.boxed
  completed _ _ _ _ hraw hargument := by
    cases hraw with
    | declared hname _ => exact .declared hname (List.forall_mem_singleton.mpr hargument)

theorem isWritten_of_resolve {u : Universe} {depth : Nat} {declared : TypeRef}
    {given : Option TypeRef} {b : Binding} (h : resolve u depth declared given = .ok b)
    (hdeclared : declared.IsWritten) (hgiven : ∀ t, given = some t → t.IsWritten) :
    b.construction.IsWritten := by
  have htypes := (isKept_isWritten u).types_of_resolve h hdeclared hgiven
  cases hconstruction : b.construction with
  | none => trivial
  | byDefault serializer =>
    rw [hconstruction] at htypes
    exact htypes serializer List.mem_cons_self
  | fromToken serializer token =>
    rw [hconstruction] at htypes
    exact ⟨htypes serializer List.mem_cons_self, htypes token (by simp [Construction.types])⟩

end Binding

namespace Blueprint

/-! ## Preferences -/

theorem isWritten_of_parseType {u : Universe} {s : String} {t : TypeRef}
    (h : parseType u s = .ok t) : t.IsWritten := by
  rw [parseType] at h
  split at h
  · cases h
  · next parsed hparsed =>
    split at h
    · cases h
    · cases h
      exact TypeRef.isWritten_of_parse hparsed

theorem isWritten_of_parseSerializer {u : Universe} {s : Option String} {given : Option TypeRef}
    (h : parseSerializer u s = .ok given) : ∀ t, given = some t → t.IsWritten := by
  rintro t rfl
  cases s with
  | none => cases h
  | some s =>
    obtain ⟨t', ht', heq⟩ := map_eq_ok_iff.mp h
    exact isWritten_of_parseType (Option.some.inj heq ▸ ht')

/-- A preference whose names, types and default can be written. The names of its types may be raw
ones. -/
structure Preference.IsWritable (p : Preference) : Prop where
  names : p.HasUsableNames
  construction : p.binding.construction.IsWritten
  literal : (DefaultCode.ofDefault p.binding.kind p.default).HasLiteral
  /-- Only finite numbers are written with digits. -/
  finite : ∀ x, p.default = .floating x → p.binding.kind = .float → x.isFinite = true →
    x.toSingle.isFinite = true

theorem IsCheckedPreference.isWritable {c : Context} {keyPrefix keySuffix : String} {index : Nat}
    {s : PreferenceSection} {declared : TypeRef} {given : Option TypeRef} {p : Preference}
    (h : IsCheckedPreference c keyPrefix keySuffix index s declared given p) : p.IsWritable where
  names := h.hasUsableNames
  construction := Binding.isWritten_of_resolve h.binding
    (isWritten_of_parseType h.type) (isWritten_of_parseSerializer h.serializer)
  literal := DefaultCode.hasLiteral_ofDefault _ _
  finite x hx hkind hfinite := by
    have hdefault := h.default
    rw [hkind, hx] at hdefault
    exact isFinite_of_resolve hdefault hfinite

/-! ## Groups -/

/-- A group whose names and preferences can be written. -/
structure Group.IsWritable (g : Group) : Prop where
  names : g.HasUsableNames
  preferences : ∀ p ∈ g.preferences, p.IsWritable

theorem IsCheckedGroup.isWritable {c : Context} {index : Nat} {s : GroupSection} {g : Group}
    (h : IsCheckedGroup c index s g) : g.IsWritable where
  names := h.hasUsableNames
  preferences p hp := by
    obtain ⟨i, s', declared, given, -, hchecked⟩ := h.exists_of_mem hp
    exact hchecked.isWritable

/-! ## The class -/

/-- A class whose names and groups can be written. -/
structure Class.IsWritable (m : Class) : Prop where
  names : m.HasUsableNames
  groups : ∀ g ∈ m.groups, g.IsWritable

/-- A class that is built can be written, whether there are errors or not. -/
theorem isWritable_of_build {depth : Nat} {d : Declaration} {m : Class} {ds : List Diagnostic}
    (h : build depth d = (some m, ds)) : m.IsWritable where
  names := hasUsableNames_of_build h
  groups g hg := by
    obtain ⟨i, s, reported, -, hkept, -⟩ := (isCheckedClass_of_build h).exists_of_mem hg
    exact (isCheckedGroup_of_group hkept).isWritable

end Blueprint

/-! ## Names in code -/

namespace Generated

variable {m : Blueprint.Class}

/-- The names that types give to the code of a class: the segments of their paths. -/
def typeSegments (m : Blueprint.Class) : List String :=
  m.groups.flatMap fun g => g.preferences.flatMap fun p => (preferenceTypes p).flatMap typeNames

/-- The names in the types of a preference. -/
theorem isWord_of_mem_preferenceTypes {p : Preference} (h : p.IsWritable) :
    ∀ w ∈ (preferenceTypes p).flatMap typeNames, IsWord w := by
  have hconstruction := h.construction
  intro w hw
  obtain ⟨t, ht, hw⟩ := List.mem_flatMap.mp hw
  refine isWord_of_mem_typeNames ?_ w hw
  rw [preferenceTypes] at ht
  split at ht
  · cases ht
  · next serializer hserializer =>
    rw [hserializer] at hconstruction
    exact List.mem_singleton.mp ht ▸ hconstruction
  · next serializer token hserializer =>
    rw [hserializer] at hconstruction
    rcases List.mem_cons.mp ht with rfl | ht
    · exact hconstruction.1
    · exact List.mem_singleton.mp ht ▸ hconstruction.2

/-- A name in the code of a preference can be used or comes from one of its types. -/
theorem isUsable_or_of_mem_preferenceNames {p : Preference} (h : p.HasUsableNames) {w : String}
    (hw : w ∈ preferenceNames p) :
    isUsable w = true ∨ w ∈ (preferenceTypes p).flatMap typeNames := by
  rw [preferenceNames, List.mem_append, List.mem_append] at hw
  rcases hw with (hw | hw) | hw
  · rcases List.mem_pair.mp hw with rfl | rfl
    · exact .inl h.method
    · exact .inl h.serializerField
  · cases hacc : p.accessors with
    | none => simp [hacc] at hw
    | some a =>
      obtain ⟨hgetter, hsetter, heditor⟩ := h.accessors a hacc
      simp only [hacc, List.mem_cons, List.not_mem_nil, or_false] at hw
      rcases hw with rfl | rfl | rfl
      · exact .inl hgetter
      · exact .inl hsetter
      · exact .inl heditor
  · exact .inr hw

theorem isUsable_or_of_mem_groupNames {g : Blueprint.Group} (h : g.HasUsableNames) {w : String}
    (hw : w ∈ groupNames g) :
    isUsable w = true ∨ ∃ p ∈ g.preferences, w ∈ (preferenceTypes p).flatMap typeNames := by
  rw [groupNames, List.mem_append] at hw
  rcases hw with hw | hw
  · simp only [List.mem_cons, List.not_mem_nil, or_false] at hw
    rcases hw with rfl | rfl | rfl | rfl | rfl
    · exact .inl h.accessor
    · exact .inl (h.items _ (by simp [Group.itemNames]))
    · exact .inl (h.items _ (by simp [Group.itemNames]))
    · exact .inl (h.items _ (by simp [Group.itemNames]))
    · exact .inl h.cellField
  · obtain ⟨p, hp, hw⟩ := List.mem_flatMap.mp hw
    exact (isUsable_or_of_mem_preferenceNames (h.preferences p hp) hw).imp_right
      fun hw => ⟨p, hp, hw⟩

theorem mem_typeSegments {w : String} :
    w ∈ typeSegments m ↔
      ∃ g ∈ m.groups, ∃ p ∈ g.preferences, w ∈ (preferenceTypes p).flatMap typeNames := by
  simp only [typeSegments, List.mem_flatMap]

/-- All names of a class can be used, but for those that come from types. -/
theorem isUsable_or_of_mem_names (h : m.HasUsableNames) {w : String} (hw : w ∈ names m) :
    isUsable w = true ∨ w ∈ typeSegments m := by
  rw [names, List.mem_append, List.mem_append] at hw
  rcases hw with (hw | hw) | hw
  · exact .inl (h.modules w hw)
  · simp only [List.mem_cons, List.not_mem_nil, or_false] at hw
    rcases hw with rfl | rfl | rfl
    · exact .inl h.className
    · exact .inl h.stateType
    · exact .inl h.stateStatic
  · obtain ⟨g, hg, hw⟩ := List.mem_flatMap.mp hw
    exact (isUsable_or_of_mem_groupNames (h.groups g hg) hw).imp_right
      fun ⟨p, hp, hw⟩ => mem_typeSegments.mpr ⟨g, hg, p, hp, hw⟩

/-- **Derived names can be used.** Every name that a class takes from its declaration, and that its
groups and preferences take from theirs, is an identifier and no reserved word, whatever else was
reported; so is every name in generated code that does not come from a type. A key between a prefix
and a suffix that are accepted is an identifier, so no group reports one that is not. -/
theorem derived_names_usable :
    (∀ (depth : Nat) (d : Declaration) (m : Blueprint.Class) (ds : List Diagnostic),
      build depth d = (some m, ds) →
        m.HasUsableNames ∧ ∀ w ∈ names m, isUsable w = true ∨ w ∈ typeSegments m) ∧
    (∀ keyPrefix keySuffix name : String, (keyPrefix = "" ∨ isIdentifier keyPrefix = true) →
      isIdentifierSuffix keySuffix = true → isIdentifier name = true →
      isIdentifier (keyPrefix ++ name ++ keySuffix) = true) ∧
    ∀ (c : Context) (index : Nat) (s : GroupSection),
      ∀ e ∈ (group c index s).2, ¬ IsKeyReport e.message := by
  refine ⟨fun depth d m ds h => ?_, fun keyPrefix keySuffix name hfront hsuffix hname => ?_,
    not_isKeyReport_of_mem_group⟩
  · have husable := hasUsableNames_of_build h
    exact ⟨husable, fun w hw => isUsable_or_of_mem_names husable hw⟩
  · exact isIdentifier_key hfront hname hsuffix

/-- A group with letters beyond ASCII in its names, and with a preference that cannot be kept. -/
def menuSection : GroupSection :=
  { name := "größeÄndern"
    keyPrefix := "über_"
    keySuffix := "_2"
    preferences := [{ name := "istOffen", type := "boolean" }, { name := "2x", type := "int" }] }

/-- A class in a module, with that group. -/
def menuDeclaration : Declaration := { main := { name := "köln.Menü", groups := [menuSection] } }

/-- The preference is reported, and the names of what is kept can be used. -/
theorem derived_names_usable_menu :
    ∃ m ds, build 10 menuDeclaration = (some m, ds) ∧ Diagnostic.anyError ds = true ∧
      m.groups.map (·.preferences.map (·.keyResource)) = [["über_istOffen_2"]] ∧
      m.HasUsableNames ∧ (∀ w ∈ names m, isUsable w = true ∨ w ∈ typeSegments m) ∧
      isIdentifier "über_istOffen_2" = true ∧
      ∀ c index, ∀ e ∈ (group c index menuSection).2, ¬ IsKeyReport e.message := by
  obtain ⟨m, ds, hbuilt, herror, hkeys⟩ :
      ∃ m ds, build 10 menuDeclaration = (some m, ds) ∧ Diagnostic.anyError ds = true ∧
        m.groups.map (·.preferences.map (·.keyResource)) = [["über_istOffen_2"]] :=
    exists_of_outcome (by decide +kernel)
  obtain ⟨hnames, hkey, hreports⟩ := derived_names_usable
  obtain ⟨husable, hwritten⟩ := hnames 10 menuDeclaration m ds hbuilt
  exact ⟨m, ds, hbuilt, herror, hkeys, husable, hwritten,
    hkey "über_" "_2" "istOffen" (.inr (by decide +kernel)) (by decide +kernel) (by decide +kernel),
    fun c index => hreports c index _⟩

theorem isWord_of_mem_typeSegments (h : m.IsWritable) {w : String}
    (hw : w ∈ typeSegments m) : IsWord w := by
  obtain ⟨g, hg, p, hp, hw⟩ := mem_typeSegments.mp hw
  exact isWord_of_mem_preferenceTypes ((h.groups g hg).preferences p hp) w hw

theorem typeSegments_subset_names (m : Blueprint.Class) : typeSegments m ⊆ names m := by
  intro w hw
  obtain ⟨g, hg, p, hp, hw⟩ := mem_typeSegments.mp hw
  refine List.mem_append_right _ (List.mem_flatMap.mpr ⟨g, hg, ?_⟩)
  exact List.mem_append_right _
    (List.mem_flatMap.mpr ⟨p, hp, List.mem_append_right _ hw⟩)

/-- Each name is an identifier, or it comes from a type and is a raw one. -/
theorem isIdentifier_or_isRawName (h : m.IsWritable) {w : String} (hw : w ∈ names m) :
    isIdentifier w = true ∨ IsRawName w ∧ w ∈ typeSegments m := by
  rcases isUsable_or_of_mem_names h.names hw with hname | hsegment
  · exact .inl (isIdentifier_of_isUsable hname)
  · exact (isWord_of_mem_typeSegments h hsegment).imp_right fun hraw => ⟨hraw, hsegment⟩

/-! ## Generation -/

/-- The first name that cannot be written is a raw one. -/
theorem emit_eq_error (h : m.IsWritable) {w : String} (hemit : emit m = .error w) :
    w ∈ typeSegments m ∧ IsRawName w := by
  rw [emit] at hemit
  split at hemit
  · next bad hbad =>
    cases hemit
    have hnot : isIdentifier w = false := by simpa using List.find?_some hbad
    rcases isIdentifier_or_isRawName h (List.mem_of_find?_eq_some hbad) with hname | ⟨hraw, hw⟩
    · rw [hnot] at hname
      cases hname
    · exact ⟨hw, hraw⟩
  · cases hemit

theorem emit_eq_ok_iff (h : m.IsWritable) :
    emit m = .ok (tokens m) ↔ ∀ w ∈ typeSegments m, ¬ IsRawName w := by
  constructor
  · intro hemit w hw hraw
    rw [emit] at hemit
    split at hemit
    · cases hemit
    · next hnone =>
      have hname := List.find?_eq_none.mp hnone w (typeSegments_subset_names m hw)
      simp [hraw.not_isIdentifier] at hname
  · intro hnone
    cases hemit : emit m with
    | error bad =>
      obtain ⟨hw, hraw⟩ := emit_eq_error h hemit
      exact absurd hraw (hnone bad hw)
    | ok ts =>
      rw [emit] at hemit
      split at hemit
      · cases hemit
      · rw [← hemit]

end Generated

open Generated

/-- Without an error there is a class, and it is what code is made from. -/
theorem generate_of_no_error {source : String} {depth : Nat}
    (h : Diagnostic.anyError (check source depth) = false) :
    ∃ m, (analyze source depth).1 = some m ∧ m.IsWritable ∧
      generate source depth = (emit m).mapError .unwritableName := by
  rw [check] at h
  cases hparse : Declaration.parse source with
  | error fault =>
    rw [analyze, hparse] at h
    cases h
  | ok d =>
    have hanalyze : analyze source depth = build depth d := by
      rw [analyze, hparse]
    rw [hanalyze] at h ⊢
    rcases hbuild : build depth d with ⟨built, ds⟩
    rw [hbuild] at h
    cases built with
    | none =>
      rw [anyError_of_build_none hbuild] at h
      cases h
    | some m =>
      refine ⟨m, rfl, isWritable_of_build hbuild, ?_⟩
      rw [generate, hanalyze, hbuild]
      simp [h]

/-- **Without an error there is code, unless a type has a raw name.** All other names are
identifiers and all numbers are literals. A raw name stops the generation; nothing else does,
however deep walks over supertypes go. -/
theorem generate_stops_at_raw_names (source : String) (depth : Nat)
    (h : Diagnostic.anyError (check source depth) = false) :
    ∃ m, (analyze source depth).1 = some m ∧
      (∀ w ∈ names m, isIdentifier w = true ∨ IsRawName w ∧ w ∈ typeSegments m) ∧
      (∀ g ∈ m.groups, ∀ p ∈ g.preferences,
        (DefaultCode.ofDefault p.binding.kind p.default).HasLiteral ∧
          ∀ x, p.default = .floating x → p.binding.kind = .float → x.isFinite = true →
            x.toSingle.isFinite = true) ∧
      (generate source depth = .ok (tokens m) ↔ ∀ w ∈ typeSegments m, ¬ IsRawName w) ∧
      ∀ fault, generate source depth = .error fault →
        ∃ w ∈ typeSegments m, IsRawName w ∧ fault = .unwritableName w := by
  obtain ⟨m, hm, hwritable, hgenerate⟩ := generate_of_no_error h
  refine ⟨m, hm, fun w => isIdentifier_or_isRawName hwritable, fun g hg p hp => ?_, ?_,
    fun fault hfault => ?_⟩
  · have hp := (hwritable.groups g hg).preferences p hp
    exact ⟨hp.literal, hp.finite⟩
  · rw [hgenerate, mapError_eq_ok_iff]
    exact emit_eq_ok_iff hwritable
  · rw [hgenerate] at hfault
    cases hemit : emit m with
    | error bad =>
      rw [hemit] at hfault
      cases hfault
      obtain ⟨hw, hraw⟩ := emit_eq_error hwritable hemit
      exact ⟨bad, hw, hraw, rfl⟩
    | ok ts =>
      rw [hemit] at hfault
      cases hfault

/-- A declaration of a preference of an enum with the given name. -/
def enumSource (name : String) : String :=
  "types = [\x7bname = \"" ++ name ++ "\", kind = \"enum\"\x7d]\n" ++
    "[preferences]\nname = \"Main\"\ngroups = [\x7bname = \"view\", preferences = [" ++
    "\x7bname = \"mode\", type = \"" ++ name ++ "\"\x7d]\x7d]"

/-- With an identifier as its name the enum does no harm. -/
theorem generate_stops_at_raw_names_kind :
    Diagnostic.anyError (check (enumSource "Kind")) = false ∧
      ∃ m, (analyze (enumSource "Kind")).1 = some m ∧
        generate (enumSource "Kind") = .ok (tokens m) := by
  have hchecked : (((analyze (enumSource "Kind")).1.map typeSegments),
      Diagnostic.anyError (check (enumSource "Kind"))) = (some ["Kind", "Kind"], false) := by
    decide +kernel
  obtain ⟨hsegments, h⟩ := Prod.mk.injEq .. |>.mp hchecked
  obtain ⟨m, hm, -, -, hok, -⟩ := generate_stops_at_raw_names _ _ h
  refine ⟨h, m, hm, hok.mpr fun w hw hraw => ?_⟩
  rw [hm, Option.map_some, Option.some.injEq] at hsegments
  have hname : w = "Kind" := by simpa [hsegments] using hw
  have hnot := hraw.not_isIdentifier
  rw [hname] at hnot
  exact absurd hnot (by decide +kernel)

/-- An enum with a raw name passes the checks and stops the generation. -/
theorem generate_stops_at_raw_enum :
    Diagnostic.anyError (check (enumSource "r#type")) = false ∧
      generate (enumSource "r#type") = .error (.unwritableName "r#type") := by
  have hchecked : ((analyze (enumSource "r#type")).1.map fun m => (names m).find? (!isIdentifier ·),
      Diagnostic.anyError (check (enumSource "r#type"))) = (some (some "r#type"), false) := by
    decide +kernel
  obtain ⟨hfound, h⟩ := Prod.mk.injEq .. |>.mp hchecked
  obtain ⟨m, hm, -, hgenerate⟩ := generate_of_no_error h
  rw [hm, Option.map_some, Option.some.injEq] at hfound
  refine ⟨h, ?_⟩
  rw [hgenerate, emit, hfound]
  rfl

end TypedPrefs
