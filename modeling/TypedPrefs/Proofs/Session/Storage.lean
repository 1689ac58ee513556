import TypedPrefs.Proofs.Session.Lifecycle
import TypedPrefs.Proofs.Store.Batch

/-!
# What preferences share

The key of a preference is its name between the prefix and the suffix of its group. Nothing compares
the keys of different groups, so preferences of two groups can have one key. Within a group keys
differ, and a preference keeps its value as long as nothing is written at its own key.
-/

namespace TypedPrefs

namespace Session

open Blueprint

variable {x : Serializers} {m : Blueprint.Class} {b : Bound} {w : World}

theorem key_of_edit {keys : Keys} {c : Change x} {e : Edit} (h : c.edit keys = .ok e) :
    e.key = keys.of c.preference := by
  rw [Change.edit] at h
  cases hvalue : (exposure x c.preference).serializer.serialize c.value with
  | error fault => simp [hvalue, Except.map] at h
  | ok v =>
    obtain rfl : Edit.ofValue _ (keys.of c.preference) v = e := by
      simpa [hvalue, Except.map] using h
    exact Edit.key_ofValue ..

/-- The edits of an editor are about the keys of the preferences that are changed. -/
theorem exists_change_of_edits {keys : Keys} {changes : List (Change x)} {es : List Edit}
    (h : edits keys changes = .ok es) {e : Edit} (he : e ∈ es) :
    ∃ c ∈ changes, e.key = keys.of c.preference := by
  induction changes generalizing es with
  | nil =>
    cases h
    cases he
  | cons c rest ih =>
    rw [edits] at h
    split at h
    · cases h
    · next edit hedit =>
      cases hrest : edits keys rest with
      | error fault => simp [hrest, Except.map] at h
      | ok found =>
        obtain rfl : edit :: found = es := by simpa [hrest, Except.map] using h
        rcases List.mem_cons.mp he with rfl | he
        · exact ⟨c, List.mem_cons_self, key_of_edit hedit⟩
        · obtain ⟨c', hc', hkey⟩ := ih hrest he
          exact ⟨c', List.mem_cons_of_mem _ hc', hkey⟩

/-! ## Operations that leave a key alone -/

/-- The preferences that an operation means to change. -/
def GroupOperation.written : GroupOperation x → List Preference
  | .set change => [change.preference]
  | .edit changes _ => changes.map Change.preference
  | _ => []

/-- An operation that changes only preferences of the class with other keys, each through its own
group. -/
def Operation.Spares (m : Blueprint.Class) (key : String) : Operation x → Prop
  | .clear => False
  | .group g operation =>
    g ∈ m.groups ∧ ∀ p ∈ operation.written, p ∈ g.preferences ∧ g.key p ≠ key
  | _ => True

theorem Operation.Spares.isOf {key : String} {operation : Operation x}
    (h : operation.Spares m key) : operation.IsOf m := by
  cases operation with
  | group g operation => exact h.1
  | _ => trivial

/-- What an operation with a group changes in a store is at the keys of the preferences that it
means to change. -/
theorem get?_performIn {keys : Keys} {store : Nat} {key : String} (operation : GroupOperation x)
    (h : ∀ p ∈ operation.written, keys.of p ≠ key) :
    ((performIn keys store w operation).2.stores store).get? key = (w.stores store).get? key := by
  have hcommit {edits : List Edit} (hedits : ∀ e ∈ edits, e.key ≠ key) :
      ((w.commit store edits).2.stores store).get? key = (w.stores store).get? key := by
    simp only [WorldOf.commit, WorldOf.setStore, if_pos]
    exact Store.get?_commit hedits _
  cases operation with
  | access => rfl
  | key p => rfl
  | get p =>
    simp only [performIn]
    split <;> rfl
  | set change =>
    simp only [performIn]
    split
    · next edit hedit =>
      refine hcommit fun e he => ?_
      obtain rfl : e = edit := List.mem_singleton.mp he
      rw [key_of_edit hedit]
      exact h _ List.mem_cons_self
    · rfl
  | edit changes ending =>
    simp only [performIn]
    split
    · next es hes =>
      have hother : ∀ e ∈ es, e.key ≠ key := fun e he => by
        obtain ⟨c, hc, hkey⟩ := exists_change_of_edits hes he
        exact hkey ▸ h _ (List.mem_map_of_mem hc)
      cases ending with
      | commit => exact hcommit hother
      | apply => exact hcommit hother
      | drop => rfl
    · rfl

/-! ## Runs where names stand for themselves -/

section Identity

variable {stores : Nat → Store} {resources : Nat → Resources} {s r : Nat}

/-- What all worlds of a run have in common: the class is what it is, its accessors differ, and it
was bound to resources where names stand for themselves. -/
structure IdentityRun (m : Blueprint.Class) (stores : Nat → Store) (resources : Nat → Resources)
    (s r : Nat) (b : Bound) (w : World) : Prop where
  groups : ∀ g ∈ m.groups, HasKeys g
  accessors : (m.groups.map Group.accessor).Nodup
  identity : resources r = .identity
  later : Later m ⟨s, r, fun _ => .empty⟩ (.boundTo stores resources s r) b w

/-- Every group is given, with the keys of its preferences, and that changes no store. -/
theorem IdentityRun.exists_keys (h : IdentityRun m stores resources s r b w) {g : Group}
    (hg : g ∈ m.groups) : ∃ keys b' w', group g w = (.ok keys, w') ∧
      IdentityRun m stores resources s r b' w' ∧ w'.stores = w.stores ∧
      ∀ p ∈ g.preferences, keys.of p = g.key p := by
  have hstores := stores_group g w
  cases hgroup : group g w with
  | mk result w' =>
    rw [hgroup] at hstores
    cases result with
    | error e =>
      -- the keys can always be looked up
      rcases group_cases g h.later.after with ⟨keys, -, heq⟩ | ⟨-, ⟨e', hmade, -⟩ | ⟨keys, -, heq⟩⟩
      · simp [hgroup] at heq
      · have htexts : w.resources b.resources = .identity := by
          rw [h.later.allResources, h.later.resources]
          exact h.identity
        rw [htexts, resolveKeys_identity] at hmade
        cases hmade
      · simp [hgroup] at heq
    | ok keys =>
      obtain ⟨b', hlater, hkeys⟩ := filled_of_group hg h.later.after hgroup
      refine ⟨keys, b', w', rfl, ⟨h.groups, h.accessors, h.identity, h.later.trans hlater⟩,
        hstores, fun p hp => ?_⟩
      obtain ⟨g', hg', hacc, htexts⟩ :=
        exists_group_of_filled h.groups (h.later.trans hlater) hkeys
      obtain rfl : g' = g := List.inj_on_of_nodup_map h.accessors hg' hg hacc
      have htext := htexts p hp
      rw [h.identity] at htext
      exact (Except.ok.inj htext).symm

theorem IdentityRun.underlyingStore (h : IdentityRun m stores resources s r b w) :
    underlyingStore w = .ok s := by
  rw [Session.underlyingStore, PreferencesCell.get, h.later.after]
  exact congrArg Except.ok h.later.store

/-- What the getter of a preference answers depends only on what is stored at its key. -/
theorem IdentityRun.get_congr {b' : Bound} {w' : World} {g : Group} {q : Preference}
    (h : IdentityRun m stores resources s r b w) (h' : IdentityRun m stores resources s r b' w')
    (hg : g ∈ m.groups) (hq : q ∈ g.preferences)
    (hstored : (w.stores s).get? (g.key q) = (w'.stores s).get? (g.key q)) :
    (perform (x := x) m w (.group g (.get q))).1 =
      (perform (x := x) m w' (.group g (.get q))).1 := by
  -- the group may be made by the getter itself, but its keys are the same in any case
  have hanswer {b : Bound} {w : World} (h : IdentityRun m stores resources s r b w) :
      (perform (x := x) m w (.group g (.get q))).1 =
        (performIn [(q.method, g.key q)] s w (.get q)).1 := by
    obtain ⟨keys, b', w', hgroup, h', hstores, hkeys⟩ := h.exists_keys hg
    have hread : read x keys (w'.stores s) q = read x [(q.method, g.key q)] (w.stores s) q := by
      rw [read, read, hkeys q hq, hstores]
      simp [Keys.of]
    simp only [perform, hgroup, h'.underlyingStore, performIn, hread]
    split <;> rfl
  have hread : read x [(q.method, g.key q)] (w.stores s) q =
      read x [(q.method, g.key q)] (w'.stores s) q := by
    have hkey : Keys.of [(q.method, g.key q)] q = g.key q := by simp [Keys.of]
    rw [read, read, hkey, ← Store.read, ← Store.read, Store.read_eq, Store.read_eq, hstored]
  rw [hanswer h, hanswer h']
  simp only [performIn, hread]
  split <;> rfl

/-- An operation that spares a key leaves what is stored there. -/
theorem IdentityRun.get?_perform (h : IdentityRun m stores resources s r b w) {key : String}
    {operation : Operation x} (hop : operation.Spares m key) :
    ((perform m w operation).2.stores s).get? key = (w.stores s).get? key := by
  cases operation with
  | isInitialized => rfl
  | bindTo store resources =>
    rw [perform, bindTo_of_bound h.later.after]
  | clear => cases hop
  | underlyingStore =>
    rw [perform]
    split <;> rfl
  | group g operation =>
    obtain ⟨hg, hwritten⟩ := hop
    obtain ⟨keys, b', w', hgroup, h', hstores, hkeys⟩ := h.exists_keys hg
    simp only [perform, hgroup, h'.underlyingStore]
    rw [get?_performIn operation fun p hp => ?_, hstores]
    obtain ⟨hmem, hother⟩ := hwritten p hp
    rw [hkeys p hmem]
    exact hother

theorem IdentityRun.perform (h : IdentityRun m stores resources s r b w) {operation : Operation x}
    (hop : operation.IsOf m) :
    ∃ b', IdentityRun m stores resources s r b' (perform m w operation).2 := by
  obtain ⟨b', hlater⟩ := later_perform hop h.later.after
  exact ⟨b', h.groups, h.accessors, h.identity, h.later.trans hlater⟩

/-- Operations in a row that spare a key leave what is stored there. -/
theorem IdentityRun.get?_performAll (h : IdentityRun m stores resources s r b w) {key : String}
    {operations : List (Operation x)} (hops : ∀ op ∈ operations, op.Spares m key) :
    ((performAll m w operations).stores s).get? key = (w.stores s).get? key ∧
      ∃ b', IdentityRun m stores resources s r b' (performAll m w operations) := by
  induction operations generalizing w b with
  | nil => exact ⟨rfl, b, h⟩
  | cons operation rest ih =>
    have hop := hops operation List.mem_cons_self
    obtain ⟨b', h'⟩ := h.perform hop.isOf
    obtain ⟨hstored, hrun⟩ := ih h' fun op hmem => hops op (List.mem_cons_of_mem _ hmem)
    exact ⟨hstored.trans (h.get?_perform hop), hrun⟩

end Identity

/-- What an operation answers. -/
def answer (x : Serializers) (m : Blueprint.Class) (w : World) (operation : Operation x) :
    Answer x :=
  (perform m w operation).1

/-- **Where writes go.** In a class whose accessors differ, the key of a preference is its name
between the prefix and the suffix of its group. Within a group keys differ. And whatever is done
that writes at other keys only, through setters or editors, the getter of a preference answers the
same. -/
theorem writes_leave_other_keys {depth : Nat} {d : Declaration} {m : Blueprint.Class}
    {ds : List Diagnostic} (h : build depth d = (some m, ds))
    (haccessors : (m.groups.map Group.accessor).Nodup) (x : Serializers) (stores : Nat → Store)
    (resources : Nat → Resources) (s r : Nat) (hidentity : resources r = .identity)
    (operations : List (Operation x)) (hops : ∀ op ∈ operations, op.IsOf m) :
    let w := performAll m (.start stores resources) (.bindTo s r :: operations)
    (∀ g ∈ m.groups, ∀ p ∈ g.preferences,
      answer x m w (.group g (.key p)) = .key (g.keyPrefix ++ p.name ++ g.keySuffix)) ∧
    (∀ g ∈ m.groups, ∀ p ∈ g.preferences, ∀ q ∈ g.preferences, p ≠ q →
      g.keyPrefix ++ p.name ++ g.keySuffix ≠ g.keyPrefix ++ q.name ++ g.keySuffix) ∧
    ∀ g ∈ m.groups, ∀ q ∈ g.preferences, ∀ later : List (Operation x),
      (∀ op ∈ later, op.Spares m (g.keyPrefix ++ q.name ++ g.keySuffix)) →
        answer x m (performAll m w later) (.group g (.get q)) =
          answer x m w (.group g (.get q)) := by
  intro w
  have hgroups : ∀ g ∈ m.groups, HasKeys g := fun g hg => hasKeys_of_build h hg
  obtain ⟨b, hlater⟩ : ∃ b, Later m ⟨s, r, fun _ => .empty⟩ (.boundTo stores resources s r) b w :=
    later_performAll hops rfl
  have hrun : IdentityRun m stores resources s r b w :=
    ⟨hgroups, haccessors, hidentity, hlater⟩
  refine ⟨fun g hg p hp => ?_, fun g hg p hp q hq hne heq => ?_, fun g hg q hq later hspares => ?_⟩
  · obtain ⟨keys, b', w', hgroup, hrun', -, hkeys⟩ := hrun.exists_keys hg
    simp only [answer, perform, hgroup, hrun'.underlyingStore, performIn, hkeys p hp]
    rfl
  · exact hne ((hgroups g hg).key_injective hp hq heq)
  · obtain ⟨hstored, b', hrun'⟩ := hrun.get?_performAll hspares
    exact hrun'.get_congr hrun hg hq hstored

/-- A class with the given groups and prefixes, each of one number. -/
def classOfPrefixes (groups : List (String × String)) : Declaration :=
  { main :=
      { name := "Main"
        groups := groups.map fun (name, keyPrefix) =>
          { name, keyPrefix, preferences := [{ name := "count", type := "int" }] } } }

/-- The number of such a group. -/
def countPreference (keyPrefix : String) : Preference :=
  { index := 0
    name := "count"
    method := "count"
    keyResource := keyPrefix ++ "count"
    binding :=
      { declared := .primitive .int
        exposed := .primitive .int
        persisted := .primitive .int
        kind := .int
        construction := .none
        strategy := .plain }
    default := .integer 0
    documentation := none
    accessors := some { getter := "count", setter := "set_count", editorSetter := "count" } }

/-- Such a group. -/
def countGroup (index : Nat) (name typeName keyPrefix : String) : Group :=
  { index, name, accessor := name, typeName, keyPrefix, keySuffix := ""
    preferences := [countPreference keyPrefix] }

/-- Setting the number of one group to five. -/
def setFive (keyPrefix : String) : Change plainSerializers :=
  ⟨countPreference keyPrefix, (5 : Int32)⟩

/-- Two groups with different prefixes: setting the number of the second one leaves that of the
first one alone, and is not refused. -/
theorem writes_leave_other_keys_prefixes :
    ∃ m ds, build 10 (classOfPrefixes [("first", ""), ("second", "app_")]) = (some m, ds) ∧
      Diagnostic.anyError ds = false ∧
      let first := countGroup 0 "first" "First" ""
      let second := countGroup 1 "second" "Second" "app_"
      let w : World := performAll (x := plainSerializers) m
        (.start (fun _ => .empty) fun _ => .identity) [.bindTo 0 0, .clear]
      answer plainSerializers m w (.group first (.key (countPreference ""))) = .key "count" ∧
      answer plainSerializers m w (.group second (.key (countPreference "app_"))) =
        .key "app_count" ∧
      answer plainSerializers m
          (performAll m w [.group second (.set (setFive "app_"))])
          (.group first (.get (countPreference ""))) =
        answer plainSerializers m w (.group first (.get (countPreference ""))) := by
  obtain ⟨m, ds, hbuilt, hds, hgroups⟩ :
      ∃ m ds, build 10 (classOfPrefixes [("first", ""), ("second", "app_")]) = (some m, ds) ∧
        Diagnostic.anyError ds = false ∧
        m.groups = [countGroup 0 "first" "First" "", countGroup 1 "second" "Second" "app_"] :=
    ⟨_, _, rfl, by decide +kernel, by decide +kernel⟩
  have hfirst : countGroup 0 "first" "First" "" ∈ m.groups := by simp [hgroups]
  have hsecond : countGroup 1 "second" "Second" "app_" ∈ m.groups := by simp [hgroups]
  obtain ⟨hkeys, -, hget⟩ := writes_leave_other_keys hbuilt
    (by rw [hgroups]; decide +kernel) plainSerializers (fun _ => .empty)
    (fun _ => .identity) 0 0 rfl [.clear] (by simp [Operation.IsOf])
  refine ⟨m, ds, hbuilt, hds, hkeys _ hfirst _ List.mem_cons_self,
    hkeys _ hsecond _ List.mem_cons_self, hget _ hfirst _ List.mem_cons_self _ fun op hop => ?_⟩
  obtain rfl := List.mem_singleton.mp hop
  refine ⟨hsecond, fun p hp => ?_⟩
  obtain rfl : p = countPreference "app_" := List.mem_singleton.mp hp
  exact ⟨List.mem_cons_self, by decide +kernel⟩

/-! ## A shared key -/

/-- Two groups without prefixes get different accessors and the same key, and nothing is reported.
Setting the number of the first group changes what the getter of the second one gives. -/
theorem preferences_share_a_key :
    ∃ m ds, build 10 (classOfPrefixes [("first", ""), ("second", "")]) = (some m, ds) ∧
      Diagnostic.anyError ds = false ∧
      m.groups = [countGroup 0 "first" "First" "", countGroup 1 "second" "Second" ""] ∧
      (m.groups.map Group.accessor).Nodup ∧
      let first := countGroup 0 "first" "First" ""
      let second := countGroup 1 "second" "Second" ""
      let count := countPreference ""
      let w : World := performAll (x := plainSerializers) m
        (.start (fun _ => .empty) fun _ => .identity) [.bindTo 0 0]
      answer plainSerializers m w (.group first (.key count)) = .key "count" ∧
      answer plainSerializers m w (.group second (.key count)) = .key "count" ∧
      answer plainSerializers m w (.group second (.get count)) = .value count (0 : Int32) ∧
      answer plainSerializers m (perform m w (.group first (.set (setFive "")))).2
        (.group second (.get count)) = .value count (5 : Int32) := by
  refine ⟨_, _, rfl, ?_, ?_, ?_, ?_, ?_, ?_, ?_⟩
  · decide +kernel
  · decide +kernel
  · decide +kernel
  · rfl
  · rfl
  · rfl
  · rfl

end Session

end TypedPrefs
