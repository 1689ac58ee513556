import Mathlib.Data.List.Basic
import TypedPrefs.Session.Class

/-!
# Groups that are made once

What asking for a group does, and what the operations of a class do to a world in which it is bound.
The class stays bound to the same store and the same resources, a cell that is filled stays as it
is, a cell that becomes filled holds the keys of its group, and other stores are left alone.
-/

namespace TypedPrefs.Session

open Blueprint ResourceStrings

variable {S R : Type} [ResourceStrings R]

/-! ## Keys -/

/-- The keys are looked up one by one. -/
theorem resolveKeys_eq_ok {r : R} {ps : List Preference} {keys : Keys}
    (h : resolveKeys r ps = .ok keys) :
    List.Forall₂ (fun p entry => entry.1 = p.method ∧ getString r p.keyResource = .ok entry.2)
      ps keys := by
  induction ps generalizing keys with
  | nil =>
    cases h
    exact .nil
  | cons p rest ih =>
    rw [resolveKeys] at h
    split at h
    · cases h
    · next key hkey =>
      cases hrest : resolveKeys r rest with
      | error e => simp [hrest, Except.map] at h
      | ok found =>
        obtain rfl : (p.method, key) :: found = keys := by simpa [hrest, Except.map] using h
        exact .cons ⟨rfl, hkey⟩ (ih hrest)

/-- Looking up fails at the first preference whose key is missing. -/
theorem resolveKeys_eq_error {r : R} {ps : List Preference} {e : PrefError}
    (h : resolveKeys r ps = .error e) : ∃ p ∈ ps, getString r p.keyResource = .error e := by
  induction ps with
  | nil => cases h
  | cons p rest ih =>
    rw [resolveKeys] at h
    split at h
    · next e' he =>
      cases h
      exact ⟨p, List.mem_cons_self, he⟩
    · cases hrest : resolveKeys r rest with
      | error e' =>
        obtain rfl : e' = e := by simpa [hrest, Except.map] using h
        obtain ⟨q, hq, hmissing⟩ := ih hrest
        exact ⟨q, List.mem_cons_of_mem _ hq, hmissing⟩
      | ok found => simp [hrest, Except.map] at h

/-- Looking a text up fails only for the reason that it is missing. -/
def OnlyMisses (r : R) : Prop :=
  ∀ name e, getString r name = .error e → e = .missingResource name

@[simp] theorem getString_resources (r : Resources) (name : String) :
    getString r name = r.getString name := rfl

/-- A text of a table can only be missing. -/
theorem onlyMisses_resources (r : Resources) : OnlyMisses r := by
  intro name e h
  cases r with
  | identity => cases h
  | table strings =>
    simp only [getString_resources, Resources.getString] at h
    split at h
    · cases h
    · exact (Except.error.inj h).symm

/-- Where methods differ, the key of a preference is the text of its own resource. -/
theorem getString_eq_of_resolveKeys {r : R} {ps : List Preference} {keys : Keys}
    (h : resolveKeys r ps = .ok keys) (hmethods : (ps.map Preference.method).Nodup)
    {p : Preference} (hp : p ∈ ps) : getString r p.keyResource = .ok (keys.of p) := by
  have hentries := resolveKeys_eq_ok h
  clear h
  induction hentries with
  | nil => cases hp
  | @cons q entry rest found hentry _ ih =>
    obtain ⟨hmethod, hkey⟩ := hentry
    rw [List.map_cons, List.nodup_cons] at hmethods
    by_cases heq : p.method = q.method
    · obtain rfl : p = q := by
        refine (List.mem_cons.mp hp).resolve_right fun hrest => hmethods.1 ?_
        exact heq ▸ List.mem_map_of_mem hrest
      rw [hkey, Keys.of, List.lookup_cons, hmethod]
      simp
    · have hrest : p ∈ rest := (List.mem_cons.mp hp).resolve_left fun h => heq (h ▸ rfl)
      rw [ih hmethods.2 hrest, Keys.of, Keys.of, List.lookup_cons, hmethod, beq_false_of_ne heq]

/-- Where names stand for themselves, all keys are found. -/
theorem resolveKeys_identity (ps : List Preference) :
    resolveKeys Resources.identity ps = .ok (ps.map fun p => (p.method, p.keyResource)) := by
  induction ps with
  | nil => rfl
  | cons p rest ih =>
    rw [resolveKeys, ih]
    rfl

/-! ## Asking for a group -/

namespace WorldOf

/-- The world with a group made. -/
def withGroup (w : WorldOf S R) (b : Bound) (accessor : String) (keys : Keys) : WorldOf S R :=
  { w with bound := ⟨some { b with groups := setGroup b.groups accessor ⟨some keys⟩ }⟩ }

end WorldOf

theorem setGroup_self (groups : String → GroupCell Keys) (accessor : String) :
    setGroup groups accessor (groups accessor) = groups := by
  funext other
  rw [setGroup]
  split
  · next heq => rw [heq]
  · rfl

/-- The three ways of asking for a group in a world in which the class is bound: it was made before,
it cannot be made, or it is made now. Only the last one changes the world. -/
theorem group_cases (g : Group) {w : WorldOf S R} {b : Bound} (hb : w.bound.content = some b) :
    (∃ keys, (b.groups g.accessor).content = some keys ∧ group g w = (.ok keys, w)) ∨
    (b.groups g.accessor).content = none ∧
      ((∃ e, resolveKeys (w.resources b.resources) g.preferences = .error e ∧
          group g w = (.error e, w)) ∨
        ∃ keys, resolveKeys (w.resources b.resources) g.preferences = .ok keys ∧
          group g w = (.ok keys, w.withGroup b g.accessor keys)) := by
  have hget : w.bound.get = .ok b := by rw [PreferencesCell.get, hb]
  have hsame : { w with bound := ⟨some { b with groups := b.groups }⟩ } = w := by
    obtain ⟨stores, resources, bound⟩ := w
    obtain ⟨content⟩ := bound
    obtain rfl : content = some b := hb
    rfl
  cases hcell : (b.groups g.accessor).content with
  | some keys =>
    refine .inl ⟨keys, rfl, ?_⟩
    rw [group, hget]
    simp only [GroupCell.getOrTryInit, hcell, setGroup_self, hsame]
  | none =>
    refine .inr ⟨rfl, ?_⟩
    cases hmade : resolveKeys (w.resources b.resources) g.preferences with
    | error e =>
      refine .inl ⟨e, rfl, ?_⟩
      rw [group, hget]
      simp only [GroupCell.getOrTryInit, hcell, hmade, setGroup_self, hsame]
    | ok keys =>
      refine .inr ⟨keys, rfl, ?_⟩
      rw [group, hget]
      simp only [GroupCell.getOrTryInit, hcell, hmade]
      rfl

theorem group_of_filled {g : Group} {w : WorldOf S R} {b : Bound} {keys : Keys}
    (hb : w.bound.content = some b) (hkeys : (b.groups g.accessor).content = some keys) :
    group g w = (.ok keys, w) := by
  rcases group_cases g hb with ⟨keys', hkeys', heq⟩ | ⟨hempty, -⟩
  · rw [hkeys] at hkeys'
    exact Option.some.inj hkeys' ▸ heq
  · rw [hempty] at hkeys
    cases hkeys

/-- A group whose cell is empty is made from what the resources hold. -/
theorem group_of_empty {g : Group} {w : WorldOf S R} {b : Bound} (hb : w.bound.content = some b)
    (hempty : (b.groups g.accessor).content = none) :
    (group g w).1 = resolveKeys (w.resources b.resources) g.preferences := by
  rcases group_cases g hb with ⟨keys, hkeys, -⟩ | ⟨-, ⟨e, hmade, heq⟩ | ⟨keys, hmade, heq⟩⟩
  · rw [hempty] at hkeys
    cases hkeys
  · rw [heq, hmade]
  · rw [heq, hmade]

theorem group_of_unbound (g : Group) {w : WorldOf S R} (hw : w.bound.content = none) :
    group g w = (.error .notInitialized, w) := by
  rw [group, PreferencesCell.get, hw]

/-- Making a group changes no store. -/
theorem stores_group (g : Group) (w : WorldOf S R) : (group g w).2.stores = w.stores := by
  rw [group]
  split <;> rfl

/-! ## What operations do to the cells and the stores -/

/-- Cells may be filled, each with the keys of a group of the class that it belongs to, and change
in no other way. -/
def Fills (m : Blueprint.Class) (r : R) (cells cells' : String → GroupCell Keys) : Prop :=
  ∀ accessor, cells' accessor = cells accessor ∨
    (cells accessor).content = none ∧ ∃ g ∈ m.groups, g.accessor = accessor ∧
      ∃ keys, resolveKeys r g.preferences = .ok keys ∧ cells' accessor = ⟨some keys⟩

variable {m : Blueprint.Class} {r : R} {cells cells' cells'' : String → GroupCell Keys}

theorem Fills.refl : Fills m r cells cells := fun _ => .inl rfl

theorem Fills.trans (h : Fills m r cells cells') (h' : Fills m r cells' cells'') :
    Fills m r cells cells'' := by
  intro accessor
  rcases h accessor with hsame | ⟨hempty, g, hg, hacc, keys, hkeys, hfilled⟩
  · rw [← hsame]
    exact h' accessor
  · rcases h' accessor with hsame | ⟨hempty', -⟩
    · exact .inr ⟨hempty, g, hg, hacc, keys, hkeys, hsame.trans hfilled⟩
    · rw [hfilled] at hempty'
      cases hempty'

/-- A filled cell keeps its content. -/
theorem Fills.content {accessor : String} {keys : Keys} (h : Fills m r cells cells')
    (hkeys : (cells accessor).content = some keys) : (cells' accessor).content = some keys := by
  rcases h accessor with hsame | ⟨hempty, -⟩
  · rw [hsame, hkeys]
  · rw [hempty] at hkeys
    cases hkeys

/-- What the operations of a class do to a world in which it is bound. -/
structure Later (m : Blueprint.Class) (b : Bound) (w : WorldOf S R) (b' : Bound)
    (w' : WorldOf S R) : Prop where
  before : w.bound.content = some b
  after : w'.bound.content = some b'
  store : b'.store = b.store
  resources : b'.resources = b.resources
  cells : Fills m (w.resources b.resources) b.groups b'.groups
  allResources : w'.resources = w.resources
  otherStores : ∀ n, n ≠ b.store → w'.stores n = w.stores n

variable {b b' b'' : Bound} {w w' w'' : WorldOf S R}

theorem Later.refl (hb : w.bound.content = some b) : Later m b w b w :=
  ⟨hb, hb, rfl, rfl, .refl, rfl, fun _ _ => rfl⟩

theorem Later.trans (h : Later m b w b' w') (h' : Later m b' w' b'' w'') : Later m b w b'' w'' where
  before := h.before
  after := h'.after
  store := h'.store.trans h.store
  resources := h'.resources.trans h.resources
  cells := by
    have hcells := h'.cells
    rw [h.allResources, h.resources] at hcells
    exact h.cells.trans hcells
  allResources := h'.allResources.trans h.allResources
  otherStores n hn :=
    (h'.otherStores n (h.store ▸ hn)).trans (h.otherStores n hn)

theorem later_group {g : Group} (hg : g ∈ m.groups) (hb : w.bound.content = some b) :
    ∃ b', Later m b w b' (group g w).2 := by
  rcases group_cases g hb with ⟨keys, -, heq⟩ | ⟨hempty, ⟨e, -, heq⟩ | ⟨keys, hkeys, heq⟩⟩
  · exact ⟨b, heq ▸ .refl hb⟩
  · exact ⟨b, heq ▸ .refl hb⟩
  · rw [heq]
    refine ⟨_, hb, rfl, rfl, rfl, fun accessor => ?_, rfl, fun _ _ => rfl⟩
    by_cases hacc : accessor = g.accessor
    · exact .inr ⟨hacc ▸ hempty, g, hg, hacc.symm, keys, hkeys, if_pos hacc⟩
    · exact .inl (if_neg hacc)

/-- A group that is given is kept in its cell. -/
theorem filled_of_group {g : Group} {keys : Keys} (hg : g ∈ m.groups)
    (hb : w.bound.content = some b) (h : group g w = (.ok keys, w')) :
    ∃ b', Later m b w b' w' ∧ (b'.groups g.accessor).content = some keys := by
  obtain ⟨b', hlater⟩ := later_group hg hb
  rw [h] at hlater
  refine ⟨b', hlater, ?_⟩
  rcases group_cases g hb with ⟨keys', hkeys, heq⟩ | ⟨-, ⟨e, -, heq⟩ | ⟨keys', -, heq⟩⟩
  · obtain ⟨rfl, -⟩ : keys = keys' ∧ w' = w := by simpa [h] using heq
    exact hlater.cells.content hkeys
  · simp [h] at heq
  · obtain ⟨rfl, rfl⟩ : keys = keys' ∧ w' = w.withGroup b g.accessor keys' := by
      simpa [h] using heq
    have hafter := hlater.after
    simp only [WorldOf.withGroup, Option.some.injEq] at hafter
    rw [← hafter]
    simp [setGroup]

/-- Collecting removals makes groups on the way, even if it fails in the end. -/
theorem later_removals {gs : List Group} (hgs : ∀ g ∈ gs, g ∈ m.groups)
    (hb : w.bound.content = some b) : ∃ b', Later m b w b' (removals gs w).2 := by
  induction gs generalizing w b with
  | nil => exact ⟨b, .refl hb⟩
  | cons g rest ih =>
    have hrest : ∀ g ∈ rest, g ∈ m.groups := fun g hg => hgs g (List.mem_cons_of_mem _ hg)
    rw [removals]
    split
    · exact ih hrest hb
    · obtain ⟨b', hlater⟩ := later_group (hgs g List.mem_cons_self) hb
      split
      · next e w' heq =>
        rw [heq] at hlater
        exact ⟨b', hlater⟩
      · next keys w' heq =>
        rw [heq] at hlater
        obtain ⟨b'', hlater'⟩ := ih hrest hlater.after
        exact ⟨b'', hlater.trans hlater'⟩

variable [KeyValueStore S]

/-- A commit to the store that the class is bound to changes nothing else. -/
theorem later_commit (edits : List Edit) (hb : w.bound.content = some b) :
    Later m b w b (w.commit b.store edits).2 where
  before := hb
  after := hb
  store := rfl
  resources := rfl
  cells := .refl
  allResources := rfl
  otherStores _ hn := if_neg hn

theorem later_finish {x : Serializers} (edits : List Edit) (ending : Ending)
    (hb : w.bound.content = some b) :
    Later m b w b (finish (x := x) b.store edits ending w).2 := by
  cases ending with
  | commit => exact later_commit edits hb
  | apply => exact later_commit edits hb
  | drop => exact .refl hb

theorem later_performIn {x : Serializers} (keys : Keys) (operation : GroupOperation x)
    (hb : w.bound.content = some b) :
    Later m b w b (performIn keys b.store w operation).2 := by
  cases operation with
  | access => exact .refl hb
  | key p => exact .refl hb
  | get p =>
    simp only [performIn]
    split <;> exact .refl hb
  | set change =>
    simp only [performIn]
    split
    · exact later_commit _ hb
    · exact .refl hb
  | edit changes ending =>
    simp only [performIn]
    split
    · exact later_finish _ ending hb
    · exact .refl hb

theorem later_clear (hb : w.bound.content = some b) : ∃ b', Later m b w b' (clear m w).2 := by
  have hgroups : ∀ g ∈ m.groups, g ∈ m.groups := fun _ hg => hg
  obtain ⟨b', hlater⟩ := later_removals hgroups hb
  rw [clear, PreferencesCell.get, hb]
  simp only
  split
  · next e w' heq =>
    rw [heq] at hlater
    exact ⟨b', hlater⟩
  · next edits w' heq =>
    rw [heq] at hlater
    exact ⟨b', hlater.trans (hlater.store ▸ later_commit edits hlater.after)⟩

end TypedPrefs.Session
