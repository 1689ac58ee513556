import TypedPrefs.Proofs.Blueprint.Accounting
import TypedPrefs.Proofs.Session.Access

/-!
# Clearing

Clearing makes all groups on its way, collects the removal of every preference, and writes only
then. So it is all or nothing: if some key is missing, the first one is told and no store changes;
else the store loses the keys of the preferences and nothing more.
-/

namespace TypedPrefs

/-- Whether a name has no text. -/
def Resources.lacks (r : Resources) (name : String) : Bool :=
  match r.getString name with
  | .ok _ => false
  | .error _ => true

namespace Session

open Blueprint

variable {x : Serializers} {m : Blueprint.Class} {b b' : Bound} {w w' : World} {g : Group}
  {gs : List Group} {r : Resources}

/-! ## Keys that are missing -/

/-- Looking up keys fails with the first one that is missing. -/
theorem resolveKeys_eq_error_iff {ps : List Preference} {e : PrefError} :
    resolveKeys r ps = .error e ↔
      ∃ name, (ps.map Preference.keyResource).find? r.lacks = some name ∧
        e = .missingResource name := by
  induction ps with
  | nil => simp [resolveKeys]
  | cons p rest ih =>
    rw [resolveKeys, List.map_cons, List.find?_cons, getString_resources]
    cases htext : r.getString p.keyResource with
    | error e' =>
      obtain rfl := onlyMisses_resources _ _ _ htext
      simp [Resources.lacks, htext, eq_comm]
    | ok key =>
      have hrest : (resolveKeys r rest).map ((p.method, key) :: ·) = .error e ↔
          resolveKeys r rest = .error e := by
        cases resolveKeys r rest <;> simp [Except.map]
      simp only [Resources.lacks, htext]
      exact hrest.trans ih

/-- Where all keys are found, none is missing. -/
theorem find?_lacks_of_resolveKeys {ps : List Preference} {keys : Keys}
    (h : resolveKeys r ps = .ok keys) :
    (ps.map Preference.keyResource).find? r.lacks = none := by
  cases hfound : (ps.map Preference.keyResource).find? r.lacks with
  | none => rfl
  | some name =>
    rw [resolveKeys_eq_error_iff.mpr ⟨name, hfound, rfl⟩] at h
    cases h

/-- The key resources of the groups that are not made yet, in the order of declaration. -/
def openResources (b : Bound) (gs : List Group) : List String :=
  (gs.filter fun g => (b.groups g.accessor).content.isNone).flatMap fun g =>
    g.preferences.map Preference.keyResource

/-- The first of these that has no text. -/
def firstMissing? (r : Resources) (b : Bound) (gs : List Group) : Option String :=
  (openResources b gs).find? r.lacks

theorem openResources_cons_of_made {keys : Keys}
    (h : (b.groups g.accessor).content = some keys) :
    openResources b (g :: gs) = openResources b gs := by
  rw [openResources, List.filter_cons_of_neg (by simp [h])]
  rfl

theorem openResources_cons_of_open (h : (b.groups g.accessor).content = none) :
    openResources b (g :: gs) =
      g.preferences.map Preference.keyResource ++ openResources b gs := by
  rw [openResources, List.filter_cons_of_pos (by simp [h]), List.flatMap_cons]
  rfl

theorem openResources_cons_of_empty (h : g.preferences = []) :
    openResources b (g :: gs) = openResources b gs := by
  cases hcell : (b.groups g.accessor).content with
  | some keys => exact openResources_cons_of_made hcell
  | none =>
    rw [openResources_cons_of_open hcell, h]
    rfl

theorem openResources_congr (h : ∀ g ∈ gs, b.groups g.accessor = b'.groups g.accessor) :
    openResources b gs = openResources b' gs := by
  have hfilter : (gs.filter fun g => (b.groups g.accessor).content.isNone) =
      gs.filter fun g => (b'.groups g.accessor).content.isNone :=
    List.filter_congr fun g hg => by rw [h g hg]
  rw [openResources, hfilter]
  rfl

/-! ## Collecting removals, step by step -/

theorem removals_cons_of_empty (h : g.preferences = []) : removals (g :: gs) w = removals gs w := by
  rw [removals, if_pos (List.isEmpty_iff.mpr h)]

theorem removals_cons_of_error {e : PrefError} (hne : g.preferences ≠ [])
    (h : group g w = (.error e, w')) : removals (g :: gs) w = (.error e, w') := by
  rw [removals, if_neg (mt List.isEmpty_iff.mp hne), h]

theorem removals_cons_of_ok {keys : Keys} (hne : g.preferences ≠ [])
    (h : group g w = (.ok keys, w')) :
    removals (g :: gs) w =
      ((removals gs w').1.map (g.preferences.map (fun p => Edit.remove (keys.of p)) ++ ·),
        (removals gs w').2) := by
  rw [removals, if_neg (mt List.isEmpty_iff.mp hne), h]

/-- Collecting removals changes no store. -/
theorem stores_removals (gs : List Group) (w : World) : (removals gs w).2.stores = w.stores := by
  induction gs generalizing w with
  | nil => rfl
  | cons g rest ih =>
    by_cases hne : g.preferences = []
    · rw [removals_cons_of_empty hne]
      exact ih w
    · rcases hgroup : group g w with ⟨result, w'⟩
      have hstores : w'.stores = w.stores := by
        have hmade := stores_group g w
        rwa [hgroup] at hmade
      cases result with
      | error e => rw [removals_cons_of_error hne hgroup, hstores]
      | ok keys =>
        rw [removals_cons_of_ok hne hgroup]
        exact (ih w').trans hstores

/-! ## When it fails -/

/-- Collecting removals fails only for a missing key. -/
theorem exists_missing_of_removals {e : PrefError} (hb : w.bound.content = some b)
    (h : (removals gs w).1 = .error e) : ∃ name, e = .missingResource name := by
  induction gs generalizing w b with
  | nil => cases h
  | cons g rest ih =>
    by_cases hne : g.preferences = []
    · rw [removals_cons_of_empty hne] at h
      exact ih hb h
    · -- a group that is given, made before or now, leaves the failure to the others
      have hrest {keys : Keys} {w' : World} {b' : Bound} (hb' : w'.bound.content = some b')
          (hgroup : group g w = (.ok keys, w')) : ∃ name, e = .missingResource name := by
        rw [removals_cons_of_ok hne hgroup] at h
        refine ih hb' ?_
        cases hresult : (removals rest w').1 with
        | error e' => simpa [hresult, Except.map] using h
        | ok edits => simp [hresult, Except.map] at h
      rcases group_cases g hb with ⟨keys, -, heq⟩ | ⟨-, ⟨e', hmade, heq⟩ | ⟨keys, -, heq⟩⟩
      · exact hrest hb heq
      · rw [removals_cons_of_error hne heq] at h
        obtain rfl := Except.error.inj h
        obtain ⟨name, -, hname⟩ := resolveKeys_eq_error_iff.mp hmade
        exact ⟨name, hname⟩
      · exact hrest rfl heq

/-- Where accessors differ, collecting removals fails with the first key that is missing among those
of the groups that are not made yet. -/
theorem removals_eq_error_iff (haccessors : (gs.map Group.accessor).Nodup)
    (hb : w.bound.content = some b) {e : PrefError} :
    (removals gs w).1 = .error e ↔
      ∃ name, firstMissing? (w.resources b.resources) b gs = some name ∧
        e = .missingResource name := by
  induction gs generalizing w b with
  | nil => simp [removals, firstMissing?, openResources]
  | cons g rest ih =>
    rw [List.map_cons, List.nodup_cons] at haccessors
    obtain ⟨hnew, hrest⟩ := haccessors
    by_cases hne : g.preferences = []
    · rw [removals_cons_of_empty hne, firstMissing?, openResources_cons_of_empty hne]
      exact ih hrest hb
    · have hmap (edits : List Edit) (result : Except PrefError (List Edit)) :
          result.map (edits ++ ·) = .error e ↔ result = .error e := by
        cases result <;> simp [Except.map]
      rcases group_cases g hb with ⟨keys, hkeys, heq⟩ | ⟨hempty, ⟨e', hmade, heq⟩ |
        ⟨keys, hmade, heq⟩⟩
      · rw [removals_cons_of_ok hne heq, firstMissing?, openResources_cons_of_made hkeys]
        exact (hmap _ _).trans (ih hrest hb)
      · obtain ⟨name, hname, rfl⟩ := resolveKeys_eq_error_iff.mp hmade
        rw [removals_cons_of_error hne heq, firstMissing?, openResources_cons_of_open hempty,
          List.find?_append, hname]
        simp [eq_comm]
      · -- the group is made now, and the cells of the others stay as they are
        have hbound : (w.withGroup b g.accessor keys).bound.content =
            some { b with groups := setGroup b.groups g.accessor ⟨some keys⟩ } := rfl
        have hothers : openResources { b with
            groups := setGroup b.groups g.accessor ⟨some keys⟩ } rest = openResources b rest := by
          refine openResources_congr fun g' hg' => if_neg fun hacc => hnew ?_
          rw [← hacc]
          exact List.mem_map_of_mem hg'
        rw [removals_cons_of_ok hne heq, firstMissing?, openResources_cons_of_open hempty,
          List.find?_append, find?_lacks_of_resolveKeys hmade, ← hothers, Option.none_or]
        exact (hmap _ _).trans (ih hrest hbound)

/-! ## When it succeeds -/

/-- The keys of a group as it is made, none if it is not. -/
def Bound.keys (b : Bound) (g : Group) : Keys := (b.groups g.accessor).content.getD []

/-- The keys of all preferences of groups, as the groups are made. -/
def Bound.storeKeys (b : Bound) (gs : List Group) : List String :=
  gs.flatMap fun g => g.preferences.map (b.keys g).of

theorem Bound.storeKeys_cons (b : Bound) (g : Group) (gs : List Group) :
    b.storeKeys (g :: gs) = g.preferences.map (b.keys g).of ++ b.storeKeys gs :=
  List.flatMap_cons

theorem Bound.keys_of_made {keys : Keys} (h : (b.groups g.accessor).content = some keys) :
    b.keys g = keys := by
  rw [Bound.keys, h]
  rfl

/-- All groups with preferences are made. -/
def AllMade (b : Bound) (gs : List Group) : Prop :=
  ∀ g ∈ gs, g.preferences ≠ [] → (b.groups g.accessor).content = some (b.keys g)

theorem AllMade.cons (h : AllMade b gs)
    (hg : g.preferences ≠ [] → (b.groups g.accessor).content = some (b.keys g)) :
    AllMade b (g :: gs) := by
  intro g' hg'
  rcases List.mem_cons.mp hg' with rfl | hrest
  · exact hg
  · exact h g' hrest

/-- Removals are collected for the keys of all preferences, and all groups are made for that. -/
theorem removals_eq_ok {edits : List Edit} (hgs : ∀ g ∈ gs, g ∈ m.groups)
    (hb : w.bound.content = some b) (h : removals gs w = (.ok edits, w')) :
    ∃ b', Later m b w b' w' ∧ AllMade b' gs ∧ edits = (b'.storeKeys gs).map .remove := by
  induction gs generalizing w b edits with
  | nil =>
    cases h
    exact ⟨b, .refl hb, nofun, rfl⟩
  | cons g rest ih =>
    have hrest : ∀ g ∈ rest, g ∈ m.groups := fun g' hg' => hgs g' (List.mem_cons_of_mem _ hg')
    by_cases hne : g.preferences = []
    · rw [removals_cons_of_empty hne] at h
      obtain ⟨b', hlater, hmade, hedits⟩ := ih hrest hb h
      refine ⟨b', hlater, hmade.cons fun hne' => absurd hne hne', ?_⟩
      rw [hedits, Bound.storeKeys_cons, hne]
      rfl
    · rcases hgroup : group g w with ⟨result, w₁⟩
      cases result with
      | error e =>
        rw [removals_cons_of_error hne hgroup] at h
        cases h
      | ok keys =>
        rw [removals_cons_of_ok hne hgroup] at h
        obtain ⟨b₁, hlater₁, hkeys⟩ := filled_of_group (hgs g List.mem_cons_self) hb hgroup
        rcases hremovals : removals rest w₁ with ⟨result, w₂⟩
        rw [hremovals] at h
        cases result with
        | error e => cases h
        | ok found =>
          cases h
          obtain ⟨b', hlater, hmade, rfl⟩ := ih hrest hlater₁.after hremovals
          -- making the others does not change the keys of this one
          have hkept := hlater.cells.content hkeys
          have hself := Bound.keys_of_made hkept
          refine ⟨b', hlater₁.trans hlater, hmade.cons fun _ => hself ▸ hkept, ?_⟩
          rw [Bound.storeKeys_cons, List.map_append, List.map_map, hself]
          rfl

/-- Where all groups are made already, nothing is looked up. -/
theorem removals_of_allMade (hb : w.bound.content = some b) (hmade : AllMade b gs) :
    removals gs w = (.ok ((b.storeKeys gs).map .remove), w) := by
  induction gs with
  | nil => rfl
  | cons g rest ih =>
    have hrest := ih fun g' hg' => hmade g' (List.mem_cons_of_mem _ hg')
    by_cases hne : g.preferences = []
    · rw [removals_cons_of_empty hne, hrest, Bound.storeKeys_cons, hne]
      rfl
    · have hgroup := group_of_filled hb (hmade g List.mem_cons_self hne)
      rw [removals_cons_of_ok hne hgroup, hrest, Bound.storeKeys_cons, List.map_append,
        List.map_map]
      rfl

theorem Bound.mem_storeKeys (b : Bound) (hg : g ∈ gs) {p : Preference}
    (hp : p ∈ g.preferences) : (b.keys g).of p ∈ b.storeKeys gs :=
  List.mem_flatMap.mpr ⟨g, hg, List.mem_map_of_mem hp⟩

/-! ## What is left -/

/-- What a clear that succeeds leaves of a store. -/
structure Cleared (x : Serializers) (m : Blueprint.Class) (n : Nat) (w w' : World) : Prop where
  /-- Every preference has a key, the void ones too, and nothing is stored there any more. -/
  removed : ∀ g ∈ m.groups, ∀ p ∈ g.preferences, ∃ key,
    perform (x := x) m w' (.group g (.key p)) = (.key key, w') ∧ (w'.stores n).get? key = none
  /-- What is stored at keys of no preference is as it was. -/
  others : ∀ key, (∀ g ∈ m.groups, ∀ p ∈ g.preferences,
      perform (x := x) m w' (.group g (.key p)) ≠ (.key key, w')) →
    (w'.stores n).get? key = (w.stores n).get? key
  otherStores : ∀ k, k ≠ n → w'.stores k = w.stores k
  /-- Every getter without a serializer gives its default. -/
  defaults : ∀ g ∈ m.groups, ∀ p ∈ g.preferences, ∀ h : p.binding.construction = .none,
    perform m w' (.group g (.get p)) = (.value p (asSeen (x := x) h (storedDefault p)), w')
  /-- Clearing again changes nothing. -/
  again : perform (x := x) m w' .clear = (.done, w')
  /-- Where accessors differ, the keys of a group are those that it had before, or would have been
  made with. -/
  sameKeys : (m.groups.map Group.accessor).Nodup → ∀ g ∈ m.groups, (group g w').1 = (group g w).1

theorem clear_of_removals_error {e : PrefError} (hb : w.bound.content = some b)
    (h : removals m.groups w = (.error e, w')) : clear m w = (.error e, w') := by
  rw [clear, PreferencesCell.get, hb]
  simp only [h]

theorem clear_of_removals_ok {edits : List Edit} (hb : w.bound.content = some b)
    (h : removals m.groups w = (.ok edits, w')) :
    clear m w = (.ok (), (w'.commit b.store edits).2) := by
  rw [clear, PreferencesCell.get, hb]
  simp only [h]

/-- Filling cells does not change what asking for a group gives, where accessors differ. -/
theorem group_of_later (haccessors : (m.groups.map Group.accessor).Nodup) (hg : g ∈ m.groups)
    (h : Later m b w b' w') : (group g w').1 = (group g w).1 := by
  have htexts : w'.resources b'.resources = w.resources b.resources := by
    rw [h.allResources, h.resources]
  rcases h.cells g.accessor with hsame | ⟨hempty, g', hg', hacc, keys, hkeys, hfilled⟩
  · cases hcell : (b.groups g.accessor).content with
    | none => rw [group_of_empty h.after (hsame ▸ hcell), group_of_empty h.before hcell, htexts]
    | some keys => rw [group_of_filled h.after (hsame ▸ hcell), group_of_filled h.before hcell]
  · obtain rfl : g' = g := List.inj_on_of_nodup_map haccessors hg' hg hacc
    have hcontent : (b'.groups g'.accessor).content = some keys := by rw [hfilled]
    rw [group_of_filled h.after hcontent, group_of_empty h.before hempty, hkeys]

theorem cleared_of_removals (x : Serializers) {edits : List Edit} (hb : w.bound.content = some b)
    (hstore : (w.stores b.store).readOnly = false)
    (h : removals m.groups w = (.ok edits, w')) :
    Cleared x m b.store w (w'.commit b.store edits).2 := by
  obtain ⟨b', hlater, hmade, rfl⟩ := removals_eq_ok (fun _ hg => hg) hb h
  have hsame : w'.stores = w.stores := by
    have hstores := stores_removals m.groups w
    rwa [h] at hstores
  generalize hcommitted : (w'.commit b.store ((b'.storeKeys m.groups).map .remove)).2 = v
  have hbound : v.bound.content = some b' := by rw [← hcommitted]; exact hlater.after
  have hentries : v.stores b.store =
      ((w.stores b.store).commit ((b'.storeKeys m.groups).map .remove)).2 := by
    rw [← hcommitted, WorldOf.stores_commit, hsame]
  have hgiven : ∀ g ∈ m.groups, ∀ p ∈ g.preferences, Given g (b'.keys g) b.store v :=
    fun g hg p hp => ⟨b', hbound, hlater.store, hmade g hg (List.ne_nil_of_mem hp)⟩
  have hkey : ∀ g ∈ m.groups, ∀ p ∈ g.preferences,
      perform (x := x) m v (.group g (.key p)) = (.key ((b'.keys g).of p), v) :=
    fun g hg p hp => (hgiven g hg p hp).perform _
  have hremoved : ∀ g ∈ m.groups, ∀ p ∈ g.preferences,
      (v.stores b.store).get? ((b'.keys g).of p) = none := fun g hg p hp => by
    rw [hentries]
    exact Store.get?_commit_removals hstore (b'.mem_storeKeys hg hp)
  refine
    { removed := fun g hg p hp => ⟨_, hkey g hg p hp, hremoved g hg p hp⟩
      others := fun key hother => ?_
      otherStores := fun k hk => ?_
      defaults := fun g hg p hp hplain => ?_
      again := ?_
      sameKeys := fun haccessors g hg => ?_ }
  · rw [hentries]
    refine Store.get?_commit (fun e he => ?_) _
    obtain ⟨k, hk, rfl⟩ := List.mem_map.mp he
    obtain ⟨g, hg, hk⟩ := List.mem_flatMap.mp hk
    obtain ⟨p, hp, rfl⟩ := List.mem_map.mp hk
    exact fun heq => hother g hg p hp (heq ▸ hkey g hg p hp)
  · rw [← hcommitted, WorldOf.stores_commit_of_ne _ hk, hsame]
  · rw [(hgiven g hg p hp).perform, performIn_get, Store.read_eq, hremoved g hg p hp]
    exact congrArg (·, v) (shown_of_plain hplain _)
  · have habsent : ∀ key ∈ b'.storeKeys m.groups, (v.stores b'.store).get? key = none := by
      intro key hkey
      rw [hlater.store, hentries]
      exact Store.get?_commit_removals hstore hkey
    rw [perform, clear_of_removals_ok hbound (removals_of_allMade hbound hmade),
      WorldOf.commit_of_unchanged (Store.commit_removals_of_absent habsent)]
    rfl
  · have hv : Later m b w b' v := by
      rw [← hcommitted, ← hlater.store]
      exact hlater.trans (later_commit _ hlater.after)
    exact group_of_later haccessors hg hv

/-- **Clearing is all or nothing.** However a class got bound, and whatever its store and its
resources hold: a clear succeeds, and then the store has lost the keys of all declared preferences
and nothing else, or it tells a key that is missing, and then no store has changed. Where accessors
differ, as they must for the functions of the class to differ, it fails exactly if a key is missing
in a group that is not made yet, and tells the first one in the order of declaration. -/
theorem clear_all_or_nothing {depth : Nat} {d : Declaration} {m : Blueprint.Class}
    {ds : List Diagnostic} (h : build depth d = (some m, ds))
    (hds : Diagnostic.anyError ds = false) (x : Serializers) {w : World} {b : Bound}
    (hb : w.bound.content = some b) (hstore : (w.stores b.store).readOnly = false) :
    List.Forall₂ (fun s g => IsWholeGroupOf s.2 s.1 g) d.main.groups.zipIdx m.groups ∧
    ∃ answer w', perform (x := x) m w .clear = (answer, w') ∧
      (answer = .done ∧ Cleared x m b.store w w' ∨
        (∃ name, answer = .failed (.missingResource name)) ∧ w'.stores = w.stores) ∧
      ((m.groups.map Group.accessor).Nodup →
        answer = match firstMissing? (w.resources b.resources) b m.groups with
          | none => .done
          | some name => .failed (.missingResource name)) := by
  refine ⟨(groups_of_no_error h hds).imp fun s g hg => hg.whole hds, ?_⟩
  have hstores := stores_removals m.groups w
  have hfirst (haccessors : (m.groups.map Group.accessor).Nodup) (e : PrefError) :
      (removals m.groups w).1 = .error e ↔ _ := removals_eq_error_iff haccessors hb
  rcases hremovals : removals m.groups w with ⟨result, w'⟩
  rw [hremovals] at hstores
  simp only [hremovals] at hfirst
  cases result with
  | error e =>
    obtain ⟨name, rfl⟩ := exists_missing_of_removals hb (congrArg Prod.fst hremovals)
    refine ⟨.failed (.missingResource name), w', ?_, .inr ⟨⟨name, rfl⟩, hstores⟩, ?_⟩
    · rw [perform, clear_of_removals_error hb hremovals]
      rfl
    · intro haccessors
      obtain ⟨name', hname, heq⟩ := (hfirst haccessors _).mp rfl
      rw [hname, heq]
  | ok edits =>
    refine ⟨.done, _, ?_, .inl ⟨rfl, cleared_of_removals x hb hstore hremovals⟩, ?_⟩
    · rw [perform, clear_of_removals_ok hb hremovals]
      rfl
    · intro haccessors
      cases hname : firstMissing? (w.resources b.resources) b m.groups with
      | none => rfl
      | some name => cases (hfirst haccessors _).mpr ⟨name, hname, rfl⟩

/-- A class with two groups, one of which has a preference without a value. -/
def trackedClass : Declaration :=
  { main :=
      { name := "Main"
        groups :=
          [{ name := "first"
             preferences :=
               [{ name := "count", type := "int" }, { name := "marker", type := "void" }] },
            { name := "second"
              keyPrefix := "app_"
              preferences := [{ name := "count", type := "int" }] }] } }

/-- A store with a value of that class and one of something else. -/
def trackedStore : Store :=
  { entries := .ofList [("count", .int 3), ("foreign", .boolean true)] }

/-- The class as it was bound, over such stores. -/
def boundOver (m : Blueprint.Class) (r : Resources) : World :=
  performAll (x := plainSerializers) m (.start (fun _ => trackedStore) fun _ => r) [.bindTo 0 0]

/-- Where names stand for themselves a clear succeeds. With a table that lacks a key of the second
group it tells that key, although the first group could be cleared. -/
theorem clear_all_or_nothing_tracked :
    ∃ m ds, build 10 trackedClass = (some m, ds) ∧ Diagnostic.anyError ds = false ∧
      (∃ w', perform (x := plainSerializers) m (boundOver m .identity) .clear = (.done, w') ∧
        Cleared plainSerializers m 0 (boundOver m .identity) w') ∧
      let half := boundOver m (.ofList [("count", "c"), ("marker", "m")])
      ∃ w', perform (x := plainSerializers) m half .clear =
          (.failed (.missingResource "app_count"), w') ∧ w'.stores = half.stores := by
  obtain ⟨m, ds, hbuilt, hds, haccessors, hall, hhalf⟩ :
      ∃ m ds, build 10 trackedClass = (some m, ds) ∧ Diagnostic.anyError ds = false ∧
        (m.groups.map Group.accessor).Nodup ∧
        firstMissing? .identity ⟨0, 0, fun _ => .empty⟩ m.groups = none ∧
        firstMissing? (.ofList [("count", "c"), ("marker", "m")]) ⟨0, 0, fun _ => .empty⟩ m.groups =
          some "app_count" :=
    exists_of_outcome (by decide +kernel)
  refine ⟨m, ds, hbuilt, hds, ?_, ?_⟩
  · obtain ⟨-, answer, w', hclear, houtcome, hfirst⟩ :=
      clear_all_or_nothing hbuilt hds plainSerializers (w := boundOver m .identity) rfl rfl
    have hdone : answer = .done := by
      rw [hfirst haccessors]
      exact hall ▸ rfl
    rcases houtcome with ⟨-, hcleared⟩ | ⟨⟨name, hfailed⟩, -⟩
    · exact ⟨w', hdone ▸ hclear, hcleared⟩
    · rw [hdone] at hfailed
      cases hfailed
  · obtain ⟨-, answer, w', hclear, houtcome, hfirst⟩ :=
      clear_all_or_nothing hbuilt hds plainSerializers
        (w := boundOver m (.ofList [("count", "c"), ("marker", "m")])) rfl rfl
    have hfailed : answer = .failed (.missingResource "app_count") := by
      rw [hfirst haccessors]
      exact hhalf ▸ rfl
    rcases houtcome with ⟨hdone, -⟩ | ⟨-, hstores⟩
    · rw [hfailed] at hdone
      cases hdone
    · exact ⟨w', hfailed ▸ hclear, hstores⟩

end Session

end TypedPrefs
