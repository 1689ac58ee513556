import TypedPrefs.Proofs.Blueprint.Candidates
import TypedPrefs.Proofs.Blueprint.Checked
import TypedPrefs.Proofs.Blueprint.GroupNames
import TypedPrefs.Proofs.Blueprint.UsableNames

/-!
# Accessors that collide

The preferences of a group are candidates for its methods. A preference takes its names in the type
for keys, in the group and in the editor, and each name that is taken is reported as one that
already exists. What such a report says is true of the built-in methods and of the preferences that
are kept; a preference that is dropped keeps its names taken as well.
-/

namespace TypedPrefs.Blueprint

open Declaration Naming

/-! ## Names of methods -/

/-- The types in which preferences take names. -/
inductive MethodSpace where
  | keys | group | editor
  deriving Repr, DecidableEq

/-- The methods for which a preference takes names. -/
def Preference.methods (editor : Bool) (p : Preference) : List (MethodSpace × String) :=
  (.keys, p.method) :: (p.functions.map (.group, ·) ++
    if editor then p.editorFunctions.map (.editor, ·) else [])

/-- The methods of a group and its editor before the first preference. -/
def builtinMethods (editor : Bool) : List (MethodSpace × String) :=
  (groupMethods editor).map (.group, ·) ++ editorMethods.map (.editor, ·)

namespace TakenMethods

/-- The names that are taken, with the type in which they are. -/
def methods (t : TakenMethods) : List (MethodSpace × String) :=
  t.keys.map (.keys, ·) ++ (t.group.map (.group, ·) ++ t.editor.map (.editor, ·))

@[simp] theorem mem_take_iff {name x : String} {taken : List String} :
    x ∈ (take name taken).1 ↔ x = name ∨ x ∈ taken := by
  rw [take]
  split
  · next hmem =>
    have htaken : name ∈ taken := by simpa using hmem
    exact ⟨.inr, fun h => h.elim (fun heq => heq ▸ htaken) id⟩
  · exact List.mem_cons

@[simp] theorem mem_collision_iff {name x : String} {taken : List String} :
    x ∈ (take name taken).2 ↔ x = name ∧ name ∈ taken := by
  rw [take]
  split
  · next hmem =>
    have htaken : name ∈ taken := by simpa using hmem
    rw [List.mem_singleton, and_iff_left htaken]
  · next hnew => simp_all

/-- A preference takes all of its names, also those that are taken. -/
theorem mem_methods_add {editor : Bool} {p : Preference} {t : TakenMethods}
    {x : MethodSpace × String} :
    x ∈ (t.add editor p).1.methods ↔ x ∈ p.methods editor ++ t.methods := by
  obtain ⟨space, name⟩ := x
  cases hacc : p.accessors with
  | none =>
    cases space <;>
      simp [add, hacc, methods, Preference.methods, Preference.functions,
        Preference.editorFunctions, eq_comm]
  | some a =>
    cases space <;> cases editor <;>
      simp [add, hacc, methods, Preference.methods, Preference.functions,
        Preference.editorFunctions, eq_comm, or_comm, or_left_comm]

/-- The collisions are the names of the preference that are taken already. -/
theorem mem_collisions_add {editor : Bool} {p : Preference} {t : TakenMethods} {name : String}
    (hdistinct : ∀ a, p.accessors = some a → a.getter ≠ a.setter) :
    name ∈ (t.add editor p).2 ↔ ∃ x ∈ p.methods editor, x.2 = name ∧ x ∈ t.methods := by
  cases hacc : p.accessors with
  | none =>
    simp [add, hacc, methods, Preference.methods, Preference.functions,
      Preference.editorFunctions, @eq_comm _ name]
  | some a =>
    -- the getter has been taken when it is the turn of the setter
    have hne : a.setter ≠ a.getter := (hdistinct a hacc).symm
    cases editor <;>
      simp [add, hacc, methods, Preference.methods, Preference.functions,
        Preference.editorFunctions, @eq_comm _ name, hne]

end TakenMethods

/-- No getter is named like the setter. -/
theorem getterName_ne_setterName (method : String) (isBoolean fluent : Bool) :
    getterName method isBoolean fluent ≠ setterName method := by
  intro heq
  have hlist := congrArg String.toList heq
  cases fluent with
  | true =>
    have hlength := congrArg List.length hlist
    simp only [getterName, setterName, if_true, String.toList_append, List.length_append] at hlength
    exact absurd hlength (by simp)
  | false => cases isBoolean <;> simp [getterName, setterName] at hlist

theorem IsCheckedPreference.getter_ne_setter {c : Context} {keyPrefix keySuffix : String}
    {index : Nat} {s : PreferenceSection} {declared : TypeRef} {given : Option TypeRef}
    {p : Preference} (h : IsCheckedPreference c keyPrefix keySuffix index s declared given p)
    {a : Accessors} (ha : p.accessors = some a) : a.getter ≠ a.setter := by
  rw [h.accessors_eq, accessorsOf] at ha
  split at ha
  · cases ha
  · cases ha
    exact getterName_ne_setterName p.method p.binding.isBoolean c.fluent

/-! ## What is reported about preferences -/

/-- The report about a method that is taken. -/
def accessorClash (g index : Nat) (name accessor group : String) : Diagnostic :=
  .error (.preference g index name)
    ("Preference " ++ name ++ " generates accessor " ++ accessor ++
      " which already exists in group " ++ group)

theorem accessorClash_inj {g index g' index' : Nat} {name accessor name' accessor' group : String} :
    accessorClash g index name accessor group = accessorClash g' index' name' accessor' group ↔
      (g = g' ∧ index = index' ∧ name = name') ∧ accessor = accessor' := by
  constructor
  · intro h
    obtain ⟨hlocation, hmessage⟩ := (Diagnostic.mk.injEq ..).mp h |>.2
    obtain ⟨rfl, rfl, rfl⟩ := Location.preference.inj hlocation
    refine ⟨⟨rfl, rfl, rfl⟩, ?_⟩
    simpa using hmessage
  · rintro ⟨⟨rfl, rfl, rfl⟩, rfl⟩
    rfl

theorem begins_accessorClash (g index : Nat) (name accessor group : String) :
    Begins ['P', 'r'] (accessorClash g index name accessor group).message.text :=
  .append (.append (.append (.append (.append (.literal _ _)))))

/-- No fault of a preference begins like the report about a method that is taken. -/
theorem not_begins_preferenceFault (f : PreferenceFault) :
    ¬ Begins ['P', 'r'] f.message.text := by
  intro hreport
  unfold PreferenceFault.message at hreport
  cases f with
  | illegalName name =>
    have hbegins : Begins ['I', 'l'] ("Illegal preference name: " ++ name) := .append (.literal _ _)
    exact absurd (hbegins.unique hreport rfl) (by decide)
  | illegalKey key =>
    have hbegins : Begins ['I', 'l'] ("Illegal preference key: " ++ key) := .append (.literal _ _)
    exact absurd (hbegins.unique hreport rfl) (by decide)
  | type e => exact absurd ((begins_invalidType e).unique hreport rfl) (by decide)
  | misfit m => exact not_begins_of_fault (begins_misfit m) (by decide) rfl hreport
  | binding preference f =>
    exact not_begins_of_fault (begins_bindingFault f preference) (by decide) rfl hreport
  | default f => exact absurd ((begins_defaultFault f).unique hreport rfl) (by decide)

theorem accessorClash_not_mem_preference (c : Context) (g index g' index' : Nat)
    (keyPrefix keySuffix name accessor group : String) (s : PreferenceSection) :
    accessorClash g index name accessor group ∉
      (preference c g' keyPrefix keySuffix index' s).2 := by
  intro hmem
  rcases of_mem_preference hmem with heq | ⟨fault, heq, -⟩
  · cases heq
  · have hown := begins_accessorClash g index name accessor group
    rw [heq] at hown
    exact not_begins_preferenceFault fault hown

/-! ## The loop over preferences -/

section Loop

variable {c : Context} {g index : Nat} {s : GroupSection} {p : PreferenceSection}
variable {rest : List PreferenceSection} {names : List String} {taken : TakenMethods}

/-- The check that makes a declared preference of a group a candidate. -/
def checkPreference (c : Context) (g : Nat) (s : GroupSection) (index : Nat)
    (p : PreferenceSection) : Option Preference :=
  (preference c g s.keyPrefix s.keySuffix index p).1

/-- A preference apart from its position. -/
def Preference.unplaced (p : Preference) : Preference := { p with index := 0 }

/-- The position is the only thing that depends on where a preference is declared. -/
theorem checkPreference_eq (c : Context) (g : Nat) (s : GroupSection) (index : Nat)
    (p : PreferenceSection) :
    checkPreference c g s index p =
      (checkPreference c 0 s 0 p).map fun q => { q with index } := by
  simp only [checkPreference, preference]
  cases preferenceBinding c s.keyPrefix s.keySuffix p with
  | error fault => rfl
  | ok found =>
    obtain ⟨method, key, b⟩ := found
    dsimp only
    cases DefaultValue.resolve b.kind p.default with
    | error fault => rfl
    | ok default => rfl

theorem isCheck_checkPreference (c : Context) (g : Nat) (s : GroupSection) :
    IsCheck PreferenceSection.name (checkPreference c g s) Preference.name Preference.index
      Preference.unplaced where
  label_eq index p q hq := by
    obtain ⟨declared, given, hchecked⟩ := isCheckedPreference_of_preference (Prod.ext hq rfl)
    exact hchecked.name_eq
  position_eq index p q hq := by
    obtain ⟨declared, given, hchecked⟩ := isCheckedPreference_of_preference (Prod.ext hq rfl)
    exact hchecked.index_eq
  unplaced_eq i j p := by
    rw [checkPreference_eq c g s i, checkPreference_eq c g s j, Option.map_map, Option.map_map]
    rfl

theorem preferencesFrom_cons_of_mem (h : p.name ∈ names) :
    preferencesFrom c g s index (p :: rest) names taken =
      ((preferencesFrom c g s (index + 1) rest names taken).1,
        .error (.preference g index p.name) ("Duplicate preference name: " ++ p.name) ::
          (preferencesFrom c g s (index + 1) rest names taken).2) := by
  rw [preferencesFrom]
  simp only [List.contains_eq_mem, decide_eq_true_eq, if_pos h]

theorem preferencesFrom_cons_of_none (hnew : p.name ∉ names)
    (h : checkPreference c g s index p = none) :
    preferencesFrom c g s index (p :: rest) names taken =
      ((preferencesFrom c g s (index + 1) rest (p.name :: names) taken).1,
        (preference c g s.keyPrefix s.keySuffix index p).2 ++
          (preferencesFrom c g s (index + 1) rest (p.name :: names) taken).2) := by
  have hp : preference c g s.keyPrefix s.keySuffix index p =
      (none, (preference c g s.keyPrefix s.keySuffix index p).2) := Prod.ext h rfl
  rw [preferencesFrom, hp]
  simp only [List.contains_eq_mem, decide_eq_true_eq, if_neg hnew]

/-- A candidate is kept if none of its names is taken, and each that is taken is reported. -/
theorem preferencesFrom_cons_of_some {q : Preference} (hnew : p.name ∉ names)
    (h : checkPreference c g s index p = some q) :
    preferencesFrom c g s index (p :: rest) names taken =
      let rest := preferencesFrom c g s (index + 1) rest (p.name :: names) (taken.add c.editor q).1
      (if (taken.add c.editor q).2 = [] then q :: rest.1 else rest.1,
        (preference c g s.keyPrefix s.keySuffix index p).2 ++
          (taken.add c.editor q).2.map (fun accessor =>
            accessorClash g index p.name accessor s.name) ++ rest.2) := by
  have hp : preference c g s.keyPrefix s.keySuffix index p =
      (some q, (preference c g s.keyPrefix s.keySuffix index p).2) := Prod.ext h rfl
  rw [preferencesFrom, hp]
  simp only [List.contains_eq_mem, decide_eq_true_eq, if_neg hnew, List.isEmpty_iff]
  split
  · next hnone => rw [hnone, List.map_nil, List.append_nil]
  · rfl

theorem not_collision_iff {q : Preference}
    (hdistinct : ∀ a, q.accessors = some a → a.getter ≠ a.setter) :
    (taken.add c.editor q).2 = [] ↔ ∀ x ∈ q.methods c.editor, x ∉ taken.methods := by
  rw [List.eq_nil_iff_forall_not_mem]
  simp only [TakenMethods.mem_collisions_add hdistinct, not_exists, not_and]
  exact ⟨fun h x hx => h x.2 x hx rfl, fun h _ x hx _ => h x hx⟩

theorem getter_ne_setter_of_check {q : Preference} (h : checkPreference c g s index p = some q) :
    ∀ a, q.accessors = some a → a.getter ≠ a.setter := by
  obtain ⟨declared, given, hchecked⟩ := isCheckedPreference_of_preference (Prod.ext h rfl)
  exact fun _ => hchecked.getter_ne_setter

/-- The loop keeps the candidates that do not collide. -/
theorem fst_preferencesFrom (c : Context) (g : Nat) (s : GroupSection) (index : Nat)
    (ps : List PreferenceSection) (names : List String) (taken : TakenMethods) :
    (preferencesFrom c g s index ps names taken).1 =
      keptFrom (Preference.methods c.editor) (fun _ => true) taken.methods
        (candidatesFrom PreferenceSection.name (checkPreference c g s) index ps names) := by
  induction ps generalizing index names taken with
  | nil => rfl
  | cons p rest ih =>
    rw [candidatesFrom]
    split
    · next hmem => rw [preferencesFrom_cons_of_mem hmem, ih]
    · next hnew =>
      cases hq : checkPreference c g s index p with
      | none =>
        rw [preferencesFrom_cons_of_none hnew hq, ih]
        rfl
      | some q =>
        have hfree : (taken.add c.editor q).2 = [] ↔
            true = true ∧ ∀ x ∈ q.methods c.editor, x ∉ taken.methods :=
          (not_collision_iff (getter_ne_setter_of_check hq)).trans (and_iff_right rfl).symm
        have hrest : ∀ cs, keptFrom (Preference.methods c.editor) (fun _ => true)
              (taken.add c.editor q).1.methods cs =
            keptFrom (Preference.methods c.editor) (fun _ => true)
              (q.methods c.editor ++ taken.methods) cs :=
          fun _ => keptFrom_congr fun _ _ _ _ => TakenMethods.mem_methods_add
        rw [preferencesFrom_cons_of_some hnew hq, Option.toList_some, List.singleton_append,
          keptFrom]
        simp only [ih, hrest, hfree]

/-- What is reported about a candidate when it is its turn are its names that are taken. -/
theorem accessorClash_mem_map_iff {q : Preference} (h : checkPreference c g s index p = some q)
    {position : Nat} {name accessor : String} :
    accessorClash g position name accessor s.name ∈
        (taken.add c.editor q).2.map (fun accessor =>
          accessorClash g index p.name accessor s.name) ↔
      ∃ x ∈ q.methods c.editor, x ∈ taken.methods ∧ q.index = position ∧ q.name = name ∧
        x.2 = accessor := by
  have hcheck := isCheck_checkPreference c g s
  rw [List.mem_map, hcheck.position_eq index p q h, hcheck.label_eq index p q h]
  constructor
  · rintro ⟨accessor', hmem, heq⟩
    obtain ⟨⟨-, rfl, rfl⟩, rfl⟩ := accessorClash_inj.mp heq
    obtain ⟨x, hx, rfl, htaken⟩ :=
      (TakenMethods.mem_collisions_add (getter_ne_setter_of_check h)).mp hmem
    exact ⟨x, hx, htaken, rfl, rfl, rfl⟩
  · rintro ⟨x, hx, htaken, rfl, rfl, rfl⟩
    exact ⟨x.2, (TakenMethods.mem_collisions_add (getter_ne_setter_of_check h)).mpr
      ⟨x, hx, rfl, htaken⟩, rfl⟩

/-- The loop reports exactly the collisions of the candidates. -/
theorem accessorClash_mem_preferencesFrom_iff (index : Nat) (ps : List PreferenceSection)
    (names : List String) (taken : TakenMethods) {position : Nat} {name accessor : String} :
    accessorClash g position name accessor s.name ∈
        (preferencesFrom c g s index ps names taken).2 ↔
      ∃ q x, Collides (Preference.methods c.editor) taken.methods
          (candidatesFrom PreferenceSection.name (checkPreference c g s) index ps names) q x ∧
        q.index = position ∧ q.name = name ∧ x.2 = accessor := by
  induction ps generalizing index names taken with
  | nil =>
    refine iff_of_false List.not_mem_nil ?_
    rintro ⟨q, x, hcollides, -⟩
    exact not_collides_nil hcollides
  | cons p rest ih =>
    rw [candidatesFrom]
    split
    · next hmem =>
      have hother : accessorClash g position name accessor s.name ≠
          .error (.preference g index p.name) ("Duplicate preference name: " ++ p.name) := by
        intro heq
        have hduplicate : Begins ['D', 'u'] ("Duplicate preference name: " ++ p.name) :=
          .append (.literal _ _)
        have hown := begins_accessorClash g position name accessor s.name
        rw [heq] at hown
        exact absurd (hduplicate.unique hown rfl) (by decide)
      rw [preferencesFrom_cons_of_mem hmem, List.mem_cons, or_iff_right hother, ih]
    · next hnew =>
      have hown := accessorClash_not_mem_preference c g position g index s.keyPrefix s.keySuffix
        name accessor s.name p
      cases hq : checkPreference c g s index p with
      | none =>
        rw [preferencesFrom_cons_of_none hnew hq, List.mem_append, or_iff_right hown, ih]
        rfl
      | some q =>
        rw [preferencesFrom_cons_of_some hnew hq, List.mem_append, List.mem_append,
          or_iff_right hown, accessorClash_mem_map_iff hq, ih, Option.toList_some,
          List.singleton_append]
        have hrest : ∀ cs r x, Collides (Preference.methods c.editor)
              (taken.add c.editor q).1.methods cs r x ↔
            Collides (Preference.methods c.editor) (q.methods c.editor ++ taken.methods) cs r x :=
          fun _ _ _ => collides_congr fun _ => TakenMethods.mem_methods_add
        simp only [hrest, collides_cons_iff, or_and_right, exists_or]
        refine or_congr ⟨?_, ?_⟩ Iff.rfl
        · rintro ⟨x, hx, htaken, hwhere⟩
          exact ⟨q, x, ⟨rfl, hx, htaken⟩, hwhere⟩
        · rintro ⟨r, x, ⟨rfl, hx, htaken⟩, hwhere⟩
          exact ⟨x, hx, htaken, hwhere⟩

end Loop

/-! ## Groups -/

/-- The candidates among the preferences of a group: none if the group itself is at fault. -/
def preferenceCandidates (c : Context) (index : Nat) (s : GroupSection) : List Preference :=
  match groupFault? s with
  | some _ => []
  | none => candidatesFrom PreferenceSection.name (checkPreference c index s) 0 s.preferences []

/-- The preferences of a group that are kept. -/
def keptPreferences (c : Context) (index : Nat) (s : GroupSection) : List Preference :=
  match (group c index s).1 with
  | some g => g.preferences
  | none => []

/-- A group without those of its preferences that have a name. -/
def withoutPreference (name : String) (s : GroupSection) : GroupSection :=
  { s with preferences := s.preferences.filter (·.name ≠ name) }

theorem keptPreferences_eq (c : Context) (index : Nat) (s : GroupSection) :
    keptPreferences c index s =
      keptFrom (Preference.methods c.editor) (fun _ => true) (builtinMethods c.editor)
        (preferenceCandidates c index s) := by
  rw [keptPreferences, preferenceCandidates, group]
  cases groupFault? s with
  | some fault => rfl
  | none => exact fst_preferencesFrom c index s 0 s.preferences [] (.initial c.editor)

/-- A group reports exactly the collisions of the candidates among its preferences. -/
theorem accessorClash_mem_group_iff {c : Context} {index position : Nat} {s : GroupSection}
    {name accessor : String} :
    accessorClash index position name accessor s.name ∈ (group c index s).2 ↔
      ∃ p x, Collides (Preference.methods c.editor) (builtinMethods c.editor)
          (preferenceCandidates c index s) p x ∧
        p.index = position ∧ p.name = name ∧ x.2 = accessor := by
  rw [preferenceCandidates, group]
  cases groupFault? s with
  | some fault =>
    refine iff_of_false (fun hmem => ?_) ?_
    · cases List.mem_singleton.mp hmem
    · rintro ⟨p, x, hcollides, -⟩
      exact not_collides_nil hcollides
  | none =>
    have hempty : accessorClash index position name accessor s.name ∉
        (if s.preferences.isEmpty then
          [Diagnostic.warning (.group index s.name)
            ("Preference group " ++ s.name ++ " declares no preferences")]
        else []) := by
      intro hmem
      split at hmem
      · cases List.mem_singleton.mp hmem
      · cases hmem
    refine List.mem_append.trans ((or_iff_right hempty).trans ?_)
    exact accessorClash_mem_preferencesFrom_iff 0 s.preferences [] (.initial c.editor)

/-- No preference that is dropped takes a name anew that a later one has. -/
def PreferencesLeaveNothing (c : Context) (index : Nat) (s : GroupSection) : Prop :=
  LeavesNothing (Preference.methods c.editor) (fun _ => true) (builtinMethods c.editor)
    (preferenceCandidates c index s)

instance (c : Context) (index : Nat) (s : GroupSection) :
    Decidable (PreferencesLeaveNothing c index s) :=
  decideLeavesNothing (Preference.methods c.editor) (fun _ => true) (builtinMethods c.editor)
    (preferenceCandidates c index s)

/-- What can be said about the accessors that collide in a group. -/
structure AccessorCollisions (c : Context) (index : Nat) (s : GroupSection) : Prop where
  /-- Reported is each name of a candidate that is a built-in method or a name of a candidate
  before it, whether that was kept or not. -/
  reported_iff : ∀ position name accessor,
    accessorClash index position name accessor s.name ∈ (group c index s).2 ↔
      ∃ p x, Collides (Preference.methods c.editor) (builtinMethods c.editor)
          (preferenceCandidates c index s) p x ∧
        p.index = position ∧ p.name = name ∧ x.2 = accessor
  /-- Nothing is left behind exactly if each collision is with a built-in method or with an earlier
  preference that is kept. -/
  leaveNothing_iff : PreferencesLeaveNothing c index s ↔
    ∀ p x, Collides (Preference.methods c.editor) (builtinMethods c.editor)
        (preferenceCandidates c index s) p x →
      x ∈ builtinMethods c.editor ∨
        ∃ q ∈ keptPreferences c index s, q.index < p.index ∧ x ∈ q.methods c.editor
  /-- Then each report names a method that exists. -/
  reported : PreferencesLeaveNothing c index s → ∀ position name accessor,
    accessorClash index position name accessor s.name ∈ (group c index s).2 →
      ∃ space, (space, accessor) ∈ builtinMethods c.editor ∨
        ∃ q ∈ keptPreferences c index s, q.index < position ∧
          (space, accessor) ∈ q.methods c.editor
  /-- Then a candidate that is dropped could as well be missing, along with what repeats its name:
  the same others are kept. -/
  without : PreferencesLeaveNothing c index s → ∀ p ∈ preferenceCandidates c index s,
    p ∉ keptPreferences c index s →
      (keptPreferences c index (withoutPreference p.name s)).map Preference.unplaced =
        (keptPreferences c index s).map Preference.unplaced

/-- The candidates stand in the order of declaration. -/
theorem pairwise_preferenceCandidates (c : Context) (index : Nat) (s : GroupSection) :
    (preferenceCandidates c index s).Pairwise fun p q => p.index < q.index := by
  rw [preferenceCandidates]
  cases groupFault? s with
  | some fault => exact .nil
  | none =>
    exact ((isCheck_checkPreference c index s).pairwise 0 s.preferences []).imp And.left

theorem keptPreferences_without {c : Context} {index : Nat} {s : GroupSection}
    (h : PreferencesLeaveNothing c index s) {p : Preference}
    (hp : p ∈ preferenceCandidates c index s) (hdropped : p ∉ keptPreferences c index s) :
    (keptPreferences c index (withoutPreference p.name s)).map Preference.unplaced =
      (keptPreferences c index s).map Preference.unplaced := by
  have hfault : groupFault? (withoutPreference p.name s) = groupFault? s := rfl
  rw [keptPreferences_eq] at hdropped
  rw [keptPreferences_eq, keptPreferences_eq]
  rw [PreferencesLeaveNothing] at h
  unfold preferenceCandidates at h hp hdropped ⊢
  rw [hfault]
  cases hnone : groupFault? s with
  | some fault => rfl
  | none =>
    rw [hnone] at h hp hdropped
    exact (isCheck_checkPreference c index s).keptFrom_filter (fun _ => rfl) (fun _ => rfl) h hp
      hdropped

theorem accessorCollisions (c : Context) (index : Nat) (s : GroupSection) :
    AccessorCollisions c index s := by
  have hiff : PreferencesLeaveNothing c index s ↔
      ∀ p x, Collides (Preference.methods c.editor) (builtinMethods c.editor)
          (preferenceCandidates c index s) p x →
        x ∈ builtinMethods c.editor ∨
          ∃ q ∈ keptPreferences c index s, q.index < p.index ∧ x ∈ q.methods c.editor := by
    rw [keptPreferences_eq]
    exact leavesNothing_iff (pairwise_preferenceCandidates c index s)
  refine ⟨fun _ _ _ => accessorClash_mem_group_iff, hiff, ?_, fun h _ => keptPreferences_without h⟩
  intro h position name accessor hmem
  obtain ⟨p, ⟨space, accessor⟩, hcollides, rfl, -, rfl⟩ := accessorClash_mem_group_iff.mp hmem
  exact ⟨space, hiff.mp h p _ hcollides⟩

end TypedPrefs.Blueprint
