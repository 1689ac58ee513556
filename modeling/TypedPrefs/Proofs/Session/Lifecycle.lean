import TypedPrefs.Proofs.Blueprint.Keys
import TypedPrefs.Proofs.Blueprint.RootNames
import TypedPrefs.Proofs.Session.Groups

/-!
# The life of a class

A class is bound once. Before that every operation but binding fails and changes nothing; after that
the class keeps its store and its resources, whatever is done with it. Groups are made when they are
first asked for. One that cannot be made is tried again; one that is made stays as it is.
-/

namespace TypedPrefs.Session

open Blueprint ResourceStrings

variable {S R : Type} [KeyValueStore S] [ResourceStrings R] {x : Serializers}

/-- Whether an operation binds the class. -/
def Operation.isBinding : Operation x → Bool
  | .bindTo _ _ => true
  | _ => false

/-- An operation of a class asks only for groups of that class. -/
def Operation.IsOf (m : Blueprint.Class) : Operation x → Prop
  | .group g _ => g ∈ m.groups
  | _ => True

variable {m : Blueprint.Class} {b b' : Bound} {w v : WorldOf S R}

/-! ## Before binding -/

/-- Without a binding every operation but binding tells so and changes nothing. -/
theorem perform_of_unbound (hw : w.bound.content = none) {operation : Operation x}
    (hop : operation.isBinding = false) :
    (perform m w operation).2 = w ∧ ((perform m w operation).1 = .truth false ∨
      (perform m w operation).1 = .failed .notInitialized) := by
  cases operation with
  | isInitialized =>
    refine ⟨rfl, .inl ?_⟩
    simp [perform, isInitialized, PreferencesCell.isInitialized, hw]
  | bindTo store resources => cases hop
  | clear => simp [perform, clear, PreferencesCell.get, hw, Answer.ofUnit]
  | underlyingStore => simp [perform, underlyingStore, PreferencesCell.get, hw, Except.map]
  | group g operation => simp [perform, group_of_unbound g hw]

theorem performAll_of_unbound (hw : w.bound.content = none) {operations : List (Operation x)}
    (hops : ∀ operation ∈ operations, operation.isBinding = false) :
    performAll m w operations = w := by
  induction operations with
  | nil => rfl
  | cons operation rest ih =>
    have hsame := (perform_of_unbound (m := m) hw (hops operation List.mem_cons_self)).1
    rw [performAll, List.foldl_cons, hsame]
    exact ih fun op hop => hops op (List.mem_cons_of_mem _ hop)

/-! ## Steps and runs after binding -/

omit [KeyValueStore S] [ResourceStrings R] in
theorem bindTo_of_bound (hb : w.bound.content = some b) (store resources : Nat) :
    bindTo store resources w = (.error .alreadyInitialized, w) := by
  rw [bindTo, PreferencesCell.fill, hb]

theorem later_perform {operation : Operation x} (hop : operation.IsOf m)
    (hb : w.bound.content = some b) : ∃ b', Later m b w b' (perform m w operation).2 := by
  cases operation with
  | isInitialized => exact ⟨b, .refl hb⟩
  | bindTo store resources =>
    rw [perform, bindTo_of_bound hb]
    exact ⟨b, .refl hb⟩
  | clear => exact later_clear hb
  | underlyingStore =>
    rw [perform]
    split <;> exact ⟨b, .refl hb⟩
  | group g operation =>
    obtain ⟨b', hlater⟩ := later_group hop hb
    rw [perform]
    split
    · next e w' heq =>
      rw [heq] at hlater
      exact ⟨b', hlater⟩
    · next keys w' heq =>
      rw [heq] at hlater
      -- the store is asked for once the group is given, and it is bound by then
      have hstore : underlyingStore w' = .ok b'.store := by
        rw [underlyingStore, PreferencesCell.get, hlater.after]
        rfl
      rw [hstore]
      exact ⟨b', hlater.trans (later_performIn keys operation hlater.after)⟩

theorem later_performAll {operations : List (Operation x)}
    (hops : ∀ operation ∈ operations, operation.IsOf m) (hb : w.bound.content = some b) :
    ∃ b', Later m b w b' (performAll m w operations) := by
  induction operations generalizing w b with
  | nil => exact ⟨b, .refl hb⟩
  | cons operation rest ih =>
    obtain ⟨b', hlater⟩ := later_perform (hops operation List.mem_cons_self) hb
    obtain ⟨b'', hlater'⟩ :=
      ih (fun op hop => hops op (List.mem_cons_of_mem _ hop)) hlater.after
    exact ⟨b'', hlater.trans hlater'⟩

/-! ## Other stores do not matter -/

/-- Two worlds that differ at most in stores other than one. -/
structure AgreeAt (store : Nat) (w v : WorldOf S R) : Prop where
  bound : w.bound = v.bound
  resources : w.resources = v.resources
  store : w.stores store = v.stores store

/-- Two results with the same answer in worlds that agree. -/
def SameResult {α : Type} (store : Nat) (p q : α × WorldOf S R) : Prop :=
  p.1 = q.1 ∧ AgreeAt store p.2 q.2

omit [KeyValueStore S] in
theorem AgreeAt.group {store : Nat} (h : AgreeAt store w v) (g : Group) :
    SameResult store (group g w) (group g v) := by
  rw [Session.group, Session.group, ← h.bound, ← h.resources]
  split
  · exact ⟨rfl, h⟩
  · exact ⟨rfl, ⟨rfl, rfl, h.store⟩⟩

omit [KeyValueStore S] in
theorem AgreeAt.removals {store : Nat} (h : AgreeAt store w v) (gs : List Group) :
    SameResult store (removals gs w) (removals gs v) := by
  induction gs generalizing w v with
  | nil => exact ⟨rfl, h⟩
  | cons g rest ih =>
    rw [Session.removals, Session.removals]
    split
    · exact ih h
    · obtain ⟨hresult, hworld⟩ := h.group g
      generalize Session.group g w = p at hresult hworld
      generalize Session.group g v = q at hresult hworld
      obtain ⟨result, w'⟩ := p
      obtain ⟨result', v'⟩ := q
      obtain rfl : result = result' := hresult
      cases result with
      | error e => exact ⟨rfl, hworld⟩
      | ok keys =>
        obtain ⟨hrest, hworld'⟩ := ih hworld
        exact ⟨by simp only [hrest], hworld'⟩

omit [ResourceStrings R] in
theorem AgreeAt.commit {store : Nat} (h : AgreeAt store w v) (edits : List Edit) :
    SameResult store (w.commit store edits) (v.commit store edits) := by
  simp only [WorldOf.commit, h.store]
  exact ⟨rfl, h.bound, h.resources, by simp [WorldOf.setStore]⟩

omit [ResourceStrings R] in
theorem AgreeAt.performIn {store : Nat} (h : AgreeAt store w v) (keys : Keys)
    (operation : GroupOperation x) :
    SameResult store (performIn keys store w operation) (performIn keys store v operation) := by
  cases operation with
  | access => exact ⟨rfl, h⟩
  | key p => exact ⟨rfl, h⟩
  | get p =>
    simp only [Session.performIn, h.store]
    split <;> exact ⟨rfl, h⟩
  | set change =>
    simp only [Session.performIn]
    split
    · exact ⟨rfl, (h.commit _).2⟩
    · exact ⟨rfl, h⟩
  | edit changes ending =>
    simp only [Session.performIn]
    split
    · cases ending with
      | commit =>
        obtain ⟨hmade, hworld⟩ := h.commit _
        exact ⟨congrArg Answer.truth hmade, hworld⟩
      | apply => exact ⟨rfl, (h.commit _).2⟩
      | drop => exact ⟨rfl, h⟩
    · exact ⟨rfl, h⟩

theorem AgreeAt.clear (h : AgreeAt b.store w v) (hb : w.bound.content = some b) :
    SameResult b.store (clear m w) (clear m v) := by
  have hw : w.bound.get = .ok b := by rw [PreferencesCell.get, hb]
  rw [Session.clear, Session.clear, ← h.bound, hw]
  simp only
  obtain ⟨hresult, hworld⟩ := h.removals m.groups
  generalize Session.removals m.groups w = p at hresult hworld
  generalize Session.removals m.groups v = q at hresult hworld
  obtain ⟨result, w'⟩ := p
  obtain ⟨result', v'⟩ := q
  obtain rfl : result = result' := hresult
  cases result with
  | error e => exact ⟨rfl, hworld⟩
  | ok edits => exact ⟨rfl, (hworld.commit edits).2⟩

/-- What a class does depends on the one store that it is bound to, and on no other. -/
theorem AgreeAt.perform (h : AgreeAt b.store w v) (hb : w.bound.content = some b)
    {operation : Operation x} (hop : operation.IsOf m) :
    SameResult b.store (perform m w operation) (perform m v operation) := by
  cases operation with
  | isInitialized => exact ⟨by simp only [Session.perform, isInitialized, h.bound], h⟩
  | bindTo store resources =>
    rw [Session.perform, Session.perform, bindTo_of_bound hb, bindTo_of_bound (h.bound ▸ hb)]
    exact ⟨rfl, h⟩
  | clear =>
    obtain ⟨hresult, hworld⟩ := h.clear (m := m) hb
    exact ⟨congrArg Answer.ofUnit hresult, hworld⟩
  | underlyingStore =>
    simp only [Session.perform, underlyingStore, ← h.bound]
    split <;> exact ⟨rfl, h⟩
  | group g operation =>
    obtain ⟨hresult, hworld⟩ := h.group g
    obtain ⟨b', hlater⟩ := later_group hop hb
    rw [Session.perform, Session.perform]
    generalize Session.group g w = p at hresult hworld hlater
    generalize Session.group g v = q at hresult hworld
    obtain ⟨result, w'⟩ := p
    obtain ⟨result', v'⟩ := q
    obtain rfl : result = result' := hresult
    cases result with
    | error e => exact ⟨rfl, hworld⟩
    | ok keys =>
      have hstore : underlyingStore w' = .ok b.store := by
        rw [underlyingStore, PreferencesCell.get, hlater.after, ← hlater.store]
        rfl
      have hstore' : underlyingStore v' = .ok b.store := by
        rw [← hstore, underlyingStore, underlyingStore, hworld.bound]
      simp only [hstore, hstore']
      exact hworld.performIn keys operation

/-! ## What holds as long as the class runs -/

/-- What holds of a class that was bound to one of these stores and to some of these resources,
whatever has been done with it since. -/
structure Running (x : Serializers) (m : Blueprint.Class) (stores : Nat → S)
    (resources : Nat → R) (s r : Nat) (w : WorldOf S R) : Prop where
  initialized : perform (x := x) m w .isInitialized = (.truth true, w)
  /-- It cannot be bound again, and trying to changes nothing. -/
  rebinding : ∀ s' r', perform (x := x) m w (.bindTo s' r') = (.failed .alreadyInitialized, w)
  underlyingStore : perform (x := x) m w .underlyingStore = (.store s, w)
  /-- It has changed no other store, ... -/
  otherStores : ∀ n, n ≠ s → w.stores n = stores n
  /-- ... and nothing that it does depends on what is in them. -/
  independent : ∀ v, AgreeAt s w v → ∀ operation : Operation x, operation.IsOf m →
    SameResult s (perform m w operation) (perform m v operation)
  /-- Where a group cannot be made, one of its keys cannot be looked up and its cell stays empty. It
  is tried again with whatever the resources hold then. -/
  failed : ∀ g ∈ m.groups, ∀ (operation : GroupOperation x) e w',
    perform m w (.group g operation) = (.failed e, w') → w' = w ∧
      (∃ p ∈ g.preferences, getString (resources r) p.keyResource = .error e ∧
        (OnlyMisses (resources r) → e = .missingResource p.keyResource)) ∧
      (∃ b, w.bound.content = some b ∧ (b.groups g.accessor).content = none) ∧
      ∀ texts, (group g (w.setResources r texts)).1 = resolveKeys texts g.preferences
  /-- Where a group is given, it is given with the same keys ever after. They are the texts of the
  resources for the preferences of a group with that accessor. -/
  made : ∀ g ∈ m.groups, ∀ (operation : GroupOperation x) answer w',
    perform m w (.group g operation) = (answer, w') → (∀ e, answer ≠ .failed e) → ∃ keys,
      (∀ operations : List (Operation x), (∀ op ∈ operations, op.IsOf m) →
        group g (performAll m w' operations) = (.ok keys, performAll m w' operations)) ∧
      ∃ g' ∈ m.groups, g'.accessor = g.accessor ∧
        ((m.groups.map Group.accessor).Nodup → g' = g) ∧ ∀ p ∈ g'.preferences,
          getString (resources r) (g'.keyPrefix ++ p.name ++ g'.keySuffix) = .ok (keys.of p)

/-- An operation with a group fails only if the group cannot be made. -/
theorem group_of_perform_failed {g : Group} {operation : GroupOperation x} {e : PrefError}
    {w' : WorldOf S R} (hb : w.bound.content = some b) (hg : g ∈ m.groups)
    (h : perform m w (.group g operation) = (.failed e, w')) : group g w = (.error e, w') := by
  obtain ⟨b', hlater⟩ := later_group hg hb
  rw [perform] at h
  split at h
  · next e' w'' heq =>
    cases h
    exact heq
  · next keys w'' heq =>
    -- the group is given, and then there is no way to fail
    rw [heq] at hlater
    rw [underlyingStore, PreferencesCell.get, hlater.after] at h
    cases operation with
    | access => cases h
    | key p => cases h
    | get p =>
      simp only [performIn, Except.map] at h
      split at h <;> cases h
    | set change =>
      simp only [performIn, Except.map] at h
      split at h <;> cases h
    | edit changes ending =>
      simp only [performIn, Except.map] at h
      split at h
      · cases ending <;> cases h
      · cases h

/-- Where an operation with a group does not fail, the group is given. -/
theorem group_of_perform {g : Group} {operation : GroupOperation x} {answer : Answer x}
    {w' : WorldOf S R} (hb : w.bound.content = some b) (hg : g ∈ m.groups)
    (h : perform m w (.group g operation) = (answer, w')) (hanswer : ∀ e, answer ≠ .failed e) :
    ∃ keys b', Later m b w b' w' ∧ (b'.groups g.accessor).content = some keys := by
  rw [perform] at h
  split at h
  · next e w'' heq =>
    cases h
    exact absurd rfl (hanswer e)
  · next keys w'' heq =>
    obtain ⟨b', hlater, hkeys⟩ := filled_of_group hg hb heq
    rw [underlyingStore, PreferencesCell.get, hlater.after] at h
    have hin := later_performIn (m := m) keys operation hlater.after
    rw [show performIn keys b'.store w'' operation = (answer, w') from h] at hin
    exact ⟨keys, b', hlater.trans hin, hkeys⟩

/-- The world in which a class is bound to a store and to resources for the first time. -/
def WorldOf.boundTo (stores : Nat → S) (resources : Nat → R) (s r : Nat) : WorldOf S R :=
  ⟨stores, resources, ⟨some ⟨s, r, fun _ => .empty⟩⟩⟩

variable {stores : Nat → S} {resources : Nat → R} {s r : Nat}

omit [KeyValueStore S] in
/-- The keys in a cell are the texts of the resources for a group with its accessor. -/
theorem exists_group_of_filled {accessor : String} {keys : Keys}
    (hgroups : ∀ g ∈ m.groups, HasKeys g)
    (hlater : Later m ⟨s, r, fun _ => .empty⟩ (.boundTo stores resources s r) b w)
    (hkeys : (b.groups accessor).content = some keys) :
    ∃ g ∈ m.groups, g.accessor = accessor ∧ ∀ p ∈ g.preferences,
      getString (resources r) (g.key p) = .ok (keys.of p) := by
  rcases hlater.cells accessor with hempty | ⟨-, g, hg, hacc, keys', hresolved, hfilled⟩
  · rw [hempty] at hkeys
    cases hkeys
  · rw [hfilled] at hkeys
    cases hkeys
    refine ⟨g, hg, hacc, fun p hp => ?_⟩
    rw [← (hgroups g hg).keyResource p hp]
    exact getString_eq_of_resolveKeys hresolved (hgroups g hg).methods hp

theorem running_of_later (hgroups : ∀ g ∈ m.groups, HasKeys g)
    (hlater : Later m ⟨s, r, fun _ => .empty⟩ (.boundTo stores resources s r) b w) :
    Running x m stores resources s r w where
  initialized := by
    simp [perform, isInitialized, PreferencesCell.isInitialized, hlater.after]
  rebinding s' r' := by
    rw [perform, bindTo_of_bound hlater.after]
    rfl
  underlyingStore := by
    simp [perform, underlyingStore, PreferencesCell.get, hlater.after, Except.map, hlater.store]
  otherStores n hn := hlater.otherStores n hn
  independent v hagree operation hop := by
    have hstore : b.store = s := hlater.store
    exact hstore ▸ (hstore.symm ▸ hagree : AgreeAt b.store w v).perform hlater.after hop
  failed g hg operation e w' h := by
    have hgroup := group_of_perform_failed hlater.after hg h
    rcases group_cases g hlater.after with ⟨keys, -, heq⟩ | ⟨hempty, hmade⟩
    · simp [hgroup] at heq
    · rcases hmade with ⟨e', hresolved, heq⟩ | ⟨keys, -, heq⟩
      · obtain ⟨rfl, rfl⟩ : e = e' ∧ w' = w := by simpa [hgroup] using heq
        refine ⟨rfl, ?_, ⟨b, hlater.after, hempty⟩, fun texts => ?_⟩
        · obtain ⟨p, hp, hmissing⟩ := resolveKeys_eq_error hresolved
          rw [hlater.resources, hlater.allResources] at hmissing
          exact ⟨p, hp, hmissing, fun honly => honly _ _ hmissing⟩
        · have hagain := group_of_empty (w := w'.setResources r texts) hlater.after hempty
          have htexts : (w'.setResources r texts).resources b.resources = texts :=
            if_pos hlater.resources
          rw [hagain, htexts]
      · simp [hgroup] at heq
  made g hg operation answer w' h hanswer := by
    obtain ⟨keys, b', hlater', hkeys⟩ := group_of_perform hlater.after hg h hanswer
    refine ⟨keys, fun operations hops => ?_, ?_⟩
    · obtain ⟨b'', hlater''⟩ := later_performAll hops hlater'.after
      exact group_of_filled hlater''.after (hlater''.cells.content hkeys)
    · obtain ⟨g', hg', hacc, hkeys'⟩ :=
        exists_group_of_filled hgroups (hlater.trans hlater') hkeys
      refine ⟨g', hg', hacc, fun hnodup => ?_, hkeys'⟩
      exact List.inj_on_of_nodup_map hnodup hg' hg hacc

/-- **The life of a class.** Until it is bound, a class tells that it is not and fails in all else,
and nothing changes. Binding it succeeds once. From then on, whatever is done, it stays bound to the
same store and resources, touches no other store, tries again to make a group that could not be
made, and gives a group that was made with the same keys for ever. The stores and resources can be
of any type. -/
theorem lifecycle {depth : Nat} {d : Declaration} {m : Blueprint.Class}
    {ds : List Diagnostic} (h : build depth d = (some m, ds)) (x : Serializers)
    (stores : Nat → S) (resources : Nat → R) :
    let start := WorldOf.start stores resources
    (∀ operations : List (Operation x), (∀ op ∈ operations, op.isBinding = false) →
      performAll m start operations = start) ∧
    perform (x := x) m start .isInitialized = (.truth false, start) ∧
    perform (x := x) m start .clear = (.failed .notInitialized, start) ∧
    perform (x := x) m start .underlyingStore = (.failed .notInitialized, start) ∧
    (∀ g (operation : GroupOperation x),
      perform m start (.group g operation) = (.failed .notInitialized, start)) ∧
    ∀ s r, ∃ bound, perform (x := x) m start (.bindTo s r) = (.done, bound) ∧
      bound.stores = stores ∧ bound.resources = resources ∧
      ∀ operations : List (Operation x), (∀ op ∈ operations, op.IsOf m) →
        Running x m stores resources s r (performAll m bound operations) := by
  refine ⟨fun operations hops => performAll_of_unbound rfl hops, rfl, rfl, rfl,
    fun g operation => rfl, fun s r => ⟨.boundTo stores resources s r, rfl, rfl, rfl, ?_⟩⟩
  intro operations hops
  obtain ⟨b, hlater⟩ := later_performAll hops (w := .boundTo stores resources s r) rfl
  exact running_of_later (fun g hg => hasKeys_of_build h hg) hlater

/-- Values that are seen as they are stored. -/
def plainSerializers : Serializers := fun p => .plain p.binding.kind

/-- A class with one group: after its first binding it runs, and stays bound through a clear. -/
theorem lifecycle_settings :
    ∃ m ds, build 10 (classOfGroups ["settings"]) = (some m, ds) ∧
      Diagnostic.anyError ds = false ∧ ∃ bound,
        perform (x := plainSerializers) m
          (.start (fun _ => Store.empty) fun _ => Resources.identity) (.bindTo 0 1) =
            (.done, bound) ∧
        Running plainSerializers m (fun _ => Store.empty) (fun _ => Resources.identity) 0 1
          (perform (x := plainSerializers) m bound .clear).2 := by
  obtain ⟨m, ds, hbuilt, hds⟩ : ∃ m ds, build 10 (classOfGroups ["settings"]) = (some m, ds) ∧
      Diagnostic.anyError ds = false := ⟨_, _, rfl, by decide +kernel⟩
  obtain ⟨-, -, -, -, -, hbinding⟩ :=
    lifecycle hbuilt plainSerializers (fun _ => Store.empty) (fun _ => Resources.identity)
  obtain ⟨bound, hbound, -, -, hrunning⟩ := hbinding 0 1
  exact ⟨m, ds, hbuilt, hds, bound, hbound, hrunning [.clear] (by simp [Operation.IsOf])⟩

end TypedPrefs.Session
