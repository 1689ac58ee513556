import Mathlib.Data.List.Nodup
import TypedPrefs.Proofs.Blueprint.Accounting

/-!
# The keys of a class

Within a group the preferences have different names, and different methods give their keys. A key is
the name of the preference between the prefix and the suffix of its group.
-/

namespace TypedPrefs.Blueprint

open Declaration

theorem TakenMethods.keys_add (editor : Bool) (p : Preference) (t : TakenMethods) :
    (t.add editor p).1.keys = (take p.method t.keys).1 := by
  rw [add]
  cases p.accessors <;> rfl

/-- Without a collision the method of a preference is new. -/
theorem TakenMethods.keys_add_of_no_collision {editor : Bool} {p : Preference} {t : TakenMethods}
    (h : (t.add editor p).2 = []) :
    p.method ∉ t.keys ∧ (t.add editor p).1.keys = p.method :: t.keys := by
  have hnew : t.keys.contains p.method = false := by
    by_contra htaken
    have htaken : p.method ∈ t.keys := by simpa using htaken
    cases hacc : p.accessors <;> simp [add, hacc, take, htaken] at h
  rw [keys_add, take, hnew]
  exact ⟨by simpa using hnew, rfl⟩

theorem TakenMethods.subset_keys_add (editor : Bool) (p : Preference) (t : TakenMethods) :
    t.keys ⊆ (t.add editor p).1.keys := by
  rw [keys_add, take]
  split
  · exact List.Subset.refl _
  · exact List.subset_cons_self _ _

/-- The preferences of a list have different values of `f`, none of them among `taken`. -/
def Fresh (f : Preference → String) (taken : List String) (qs : List Preference) : Prop :=
  (qs.map f).Nodup ∧ ∀ q ∈ qs, f q ∉ taken

theorem Fresh.of_subset {f : Preference → String} {taken taken' : List String}
    {qs : List Preference} (h : Fresh f taken' qs) (hsubset : taken ⊆ taken') : Fresh f taken qs :=
  ⟨h.1, fun q hq hmem => h.2 q hq (hsubset hmem)⟩

theorem Fresh.cons {f : Preference → String} {taken : List String} {q : Preference}
    {qs : List Preference} (hq : f q ∉ taken) (h : Fresh f (f q :: taken) qs) :
    Fresh f taken (q :: qs) := by
  refine ⟨?_, fun p hp => ?_⟩
  · rw [List.map_cons, List.nodup_cons]
    refine ⟨fun hmem => ?_, h.1⟩
    obtain ⟨p, hp, heq⟩ := List.mem_map.mp hmem
    exact h.2 p hp (heq ▸ List.mem_cons_self)
  · rcases List.mem_cons.mp hp with rfl | hp
    · exact hq
    · exact fun hmem => h.2 p hp (List.mem_cons_of_mem _ hmem)

/-- The preferences that a group keeps have new names and new methods. -/
theorem fresh_preferencesFrom (c : Context) (group : Nat) (s : GroupSection) (index : Nat)
    (ps : List PreferenceSection) (names : List String) (taken : TakenMethods) :
    Fresh Preference.name names (preferencesFrom c group s index ps names taken).1 ∧
      Fresh Preference.method taken.keys (preferencesFrom c group s index ps names taken).1 := by
  induction ps generalizing index names taken with
  | nil => simp [preferencesFrom, Fresh]
  | cons p rest ih =>
    simp only [preferencesFrom]
    split
    · exact ih (index + 1) names taken
    · next hname =>
      split
      · obtain ⟨hnames, hmethods⟩ := ih (index + 1) (p.name :: names) taken
        exact ⟨hnames.of_subset (List.subset_cons_self _ _), hmethods⟩
      · next q reported hq =>
        obtain ⟨hnames, hmethods⟩ :=
          ih (index + 1) (p.name :: names) (taken.add c.editor q).1
        split
        · next hfree =>
          obtain ⟨hmethod, hkeys⟩ :=
            TakenMethods.keys_add_of_no_collision (List.isEmpty_iff.mp hfree)
          have hqname := (isPreferenceOf_of_preference hq).name_eq
          refine ⟨.cons ?_ (hqname ▸ hnames), .cons hmethod (hkeys ▸ hmethods)⟩
          rw [hqname]
          simpa using hname
        · exact ⟨hnames.of_subset (List.subset_cons_self _ _),
            hmethods.of_subset (TakenMethods.subset_keys_add _ _ _)⟩

/-- The key of a preference: its name between the prefix and the suffix of its group. -/
def Group.key (g : Group) (p : Preference) : String := g.keyPrefix ++ p.name ++ g.keySuffix

/-- A group as it is kept: its preferences differ in their names and in their methods, and their
keys are made from their names. -/
structure HasKeys (g : Group) : Prop where
  names : (g.preferences.map Preference.name).Nodup
  methods : (g.preferences.map Preference.method).Nodup
  keyResource : ∀ p ∈ g.preferences, p.keyResource = g.key p

/-- Within a group different preferences have different keys. -/
theorem HasKeys.key_injective {g : Group} (h : HasKeys g) {p q : Preference}
    (hp : p ∈ g.preferences) (hq : q ∈ g.preferences) (heq : g.key p = g.key q) : p = q := by
  have hprefixed : g.keyPrefix ++ p.name = g.keyPrefix ++ q.name :=
    (String.append_left_inj _).mp heq
  exact List.inj_on_of_nodup_map h.names hp hq ((String.append_right_inj _).mp hprefixed)

theorem hasKeys_of_group {c : Context} {index : Nat} {s : GroupSection} {g : Group}
    {reported : List Diagnostic} (h : group c index s = (some g, reported)) : HasKeys g := by
  have hchecked := isCheckedGroup_of_group h
  obtain ⟨hnames, hmethods⟩ := fresh_preferencesFrom c index s 0 s.preferences []
    (.initial c.editor)
  rw [← hchecked.preferences_eq] at hnames hmethods
  refine ⟨hnames.1, hmethods.1, fun q hq => ?_⟩
  obtain ⟨i, p, declared, given, -, hp⟩ := hchecked.exists_of_mem hq
  rw [Group.key, hchecked.keyPrefix_eq, hchecked.keySuffix_eq, hp.name_eq]
  exact preferenceKey_eq hp.key

/-- All groups of a class are of this form, whether there are errors or not. -/
theorem hasKeys_of_build {depth : Nat} {d : Declaration} {m : Class} {ds : List Diagnostic}
    (h : build depth d = (some m, ds)) {g : Group} (hg : g ∈ m.groups) : HasKeys g := by
  obtain ⟨index, s, reported, -, hkept, -⟩ := (isCheckedClass_of_build h).exists_of_mem hg
  exact hasKeys_of_group hkept

end TypedPrefs.Blueprint
