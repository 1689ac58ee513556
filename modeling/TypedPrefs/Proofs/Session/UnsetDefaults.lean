import TypedPrefs.Proofs.Persist.Declared
import TypedPrefs.Proofs.Session.ReadBack

/-!
# Preferences that are not set

A preference without a serializer and without a stored value has the value that its declaration
gives as default: what is declared, what the code of the default evaluates to and what the getter
answers are the same value of the kind.
-/

namespace TypedPrefs

open Declaration

/-! ## Declared defaults -/

namespace DefaultValue

/-- A default that is found for what was given says the same as it: it declares one value, and that
is the one value of the expression for the default. -/
structure IsExact (k : StoredKind) (given : Document.Value) (d : DefaultValue) (v : k.Value) :
    Prop where
  declared : Declares k given v
  only : ∀ v', Declares k given v' → v' = v
  code : k ≠ .void → ∀ v', Evaluates k (DefaultCode.ofDefault k d).tokens v' ↔ v' = v

theorem isExact_of_resolve {k : StoredKind} (hk : k.isFloating = false) {given : Document.Value}
    {d : DefaultValue} (h : resolve k (some given) = .ok d) :
    IsExact k given d (d.valueAs k) := by
  obtain ⟨hfits, hdeclared⟩ := declares_of_resolve hk h
  exact ⟨hdeclared, fun v' hv' => hv'.unique hdeclared, fun hvoid v' => evaluates_iff hfits hvoid⟩

end DefaultValue

/-! ## Sections -/

/-- The section that declares a preference of a group. -/
def Blueprint.IsDeclaredBy (d : Declaration) (g : Blueprint.Group) (p : Blueprint.Preference)
    (s : PreferenceSection) : Prop :=
  ∃ group, d.main.groups[g.index]? = some group ∧ group.preferences[p.index]? = some s

/-- A preference of a class has the default of its section. -/
theorem Blueprint.exists_isDeclaredBy {depth : Nat} {d : Declaration} {m : Blueprint.Class}
    {ds : List Diagnostic} (h : build depth d = (some m, ds)) {g : Blueprint.Group}
    (hg : g ∈ m.groups) {p : Blueprint.Preference} (hp : p ∈ g.preferences) :
    ∃ s, IsDeclaredBy d g p s ∧ DefaultValue.resolve p.binding.kind s.default = .ok p.default := by
  obtain ⟨i, group, reported, hgroup, hkept, -⟩ := (isCheckedClass_of_build h).exists_of_mem hg
  have hchecked := isCheckedGroup_of_group hkept
  obtain ⟨j, s, declared, given, hs, hp⟩ := hchecked.exists_of_mem hp
  refine ⟨s, ⟨group, ?_, ?_⟩, hp.default⟩
  · rw [hchecked.index_eq]
    exact hgroup
  · rw [hp.index_eq]
    exact hs

namespace Session

open Blueprint

variable {m : Blueprint.Class} {g : Group} {p : Preference} {w : World}

/-- Without a stored value the getter gives the default. -/
theorem get_unset (x : Serializers) (hg : g ∈ m.groups) {b : Bound} (hb : w.bound.content = some b)
    (hplain : p.binding.construction = .none) :
    (∃ e, ∀ operation : GroupOperation x, perform m w (.group g operation) = (.failed e, w)) ∨
    ∃ key, (perform (x := x) m w (.group g (.key p))).1 = .key key ∧
      ((w.stores b.store).get? key = none →
        (perform (x := x) m w (.group g (.get p))).1 = .value p (asSeen hplain (storedDefault p))) := by
  rcases perform_group_cases x hg hb with hfailed | ⟨keys, w₁, -, hstores, hperform⟩
  · exact .inl hfailed
  refine .inr ⟨keys.of p, by rw [hperform]; rfl, fun hunset => ?_⟩
  rw [hperform, performIn_get, hstores,
    Store.read_of_unfit fun stored hstored => nomatch hunset.symm.trans hstored]
  exact shown_of_plain hplain _

/-- **Defaults are exact and well typed.** For every kind but those of floating-point numbers, a
default is found exactly for what the kind can represent. It then declares one value, which is the
one that its expression evaluates to. So an unset preference without a serializer has the declared
value, in every class that is built from the declaration: its group is not given, with nothing done,
or its getter answers that value. -/
theorem explicit_defaults_exact (x : Serializers) :
    (∀ (k : StoredKind) (given : Document.Value), k.isFloating = false →
      ((∃ d, DefaultValue.resolve k (some given) = .ok d) ↔ ∃ v, Declares k given v) ∧
      ∀ d, DefaultValue.resolve k (some given) = .ok d →
        ∃ v, DefaultValue.IsExact k given d v) ∧
    ∀ (depth : Nat) (decl : Declaration) (m : Blueprint.Class) (ds : List Diagnostic),
      build depth decl = (some m, ds) → ∀ g ∈ m.groups, ∀ p ∈ g.preferences,
      ∃ s, IsDeclaredBy decl g p s ∧
        ∀ given, s.default = some given → p.binding.kind.isFloating = false →
        ∀ hplain : p.binding.construction = .none,
        ∃ v, DefaultValue.IsExact p.binding.kind given p.default v ∧
          ∀ (w : World) (b : Bound), w.bound.content = some b →
            (∃ e, ∀ operation : GroupOperation x,
              perform m w (.group g operation) = (.failed e, w)) ∨
            ∃ key, (perform (x := x) m w (.group g (.key p))).1 = .key key ∧
              ((w.stores b.store).get? key = none →
                (perform (x := x) m w (.group g (.get p))).1 = .value p (asSeen hplain v)) := by
  constructor
  · intro k given hk
    refine ⟨⟨?_, fun ⟨v, hv⟩ => DefaultValue.exists_resolve hv⟩, fun d hd => ?_⟩
    · rintro ⟨d, hd⟩
      exact ⟨_, (DefaultValue.declares_of_resolve hk hd).2⟩
    · exact ⟨_, DefaultValue.isExact_of_resolve hk hd⟩
  · intro depth decl m ds hbuilt g hg p hp
    obtain ⟨s, hsection, hdefault⟩ := exists_isDeclaredBy hbuilt hg hp
    refine ⟨s, hsection, fun given hgiven hk hplain => ?_⟩
    rw [hgiven] at hdefault
    refine ⟨storedDefault p, DefaultValue.isExact_of_resolve hk hdefault, fun w b hb => ?_⟩
    exact get_unset x hg hb hplain

/-- A class with one preference, which has the least integer of its kind as default. -/
def offsetClass : Declaration :=
  { main :=
      { name := "Main"
        groups :=
          [{ name := "clock"
             preferences :=
               [{ name := "offset", type := "long"
                  default := some (.integer (-9223372036854775808)) }] }] }
    types := [] }

/-- That preference. -/
def offsetPreference : Preference :=
  { index := 0
    name := "offset"
    method := "offset"
    keyResource := "offset"
    binding :=
      { declared := .primitive .long
        exposed := .primitive .long
        persisted := .primitive .long
        kind := .long
        construction := .none
        strategy := .plain }
    default := .integer (-9223372036854775808)
    documentation := none
    accessors := some { getter := "offset", setter := "set_offset", editorSetter := "offset" } }

/-- Its group. -/
def clockGroup : Group :=
  { index := 0, name := "clock", accessor := "clock", typeName := "Clock", keyPrefix := ""
    keySuffix := "", preferences := [offsetPreference] }

/-- The minus sign and the magnitude, which is no integer of the kind by itself, give the least
integer, and the getter answers it over an empty store. -/
theorem explicit_defaults_exact_least :
    (∃ d, DefaultValue.resolve .long (some (.integer (-9223372036854775808))) = .ok d ∧
      ∀ v, Evaluates .long (DefaultCode.ofDefault .long d).tokens v ↔ v = Int64.minValue) ∧
    ∃ m ds, build 10 offsetClass = (some m, ds) ∧
      let w : World := performAll (x := plainSerializers) m
        (.start (fun _ => { entries := .empty }) fun _ => .identity) [.bindTo 0 0]
      (perform m w (.group clockGroup (.get offsetPreference))).1 =
        .value (x := plainSerializers) offsetPreference Int64.minValue := by
  obtain ⟨hexact, hread⟩ := explicit_defaults_exact plainSerializers
  have hdeclares : Declares .long (.integer (-9223372036854775808)) Int64.minValue := .integer rfl
  constructor
  · obtain ⟨hiff, hresolved⟩ := hexact .long (.integer (-9223372036854775808)) rfl
    obtain ⟨d, hd⟩ := hiff.mpr ⟨_, hdeclares⟩
    obtain ⟨v, hv⟩ := hresolved d hd
    refine ⟨d, hd, ?_⟩
    rw [hv.only _ hdeclares]
    exact hv.code (by decide)
  · obtain ⟨m, ds, hbuilt, hgroups⟩ :
        ∃ m ds, build 10 offsetClass = (some m, ds) ∧ m.groups = [clockGroup] :=
      exists_of_outcome (by decide +kernel)
    refine ⟨m, ds, hbuilt, ?_⟩
    intro w
    obtain ⟨s, ⟨group, hgroup, hs⟩, hgiven⟩ :=
      hread 10 offsetClass m ds hbuilt clockGroup (by simp [hgroups]) offsetPreference
        List.mem_cons_self
    cases hgroup
    cases hs
    obtain ⟨v, hv, hget⟩ := hgiven (.integer (-9223372036854775808)) rfl rfl rfl
    obtain ⟨e, hfailed⟩ | ⟨key, -, hunset⟩ := hget w ⟨0, 0, fun _ => .empty⟩ rfl
    · cases congrArg Prod.fst (hfailed .access)
    · rw [hv.only _ hdeclares]
      exact hunset rfl

end Session

end TypedPrefs
