import TypedPrefs.Proofs.SortedMap
import TypedPrefs.Store.Basic

/-!
# Batches of edits

What a store holds after a batch. A batch changes nothing at keys that it does not name, two batches
in a row are one, and a batch of removals leaves exactly the entries at other keys.
-/

namespace TypedPrefs

/-! ## Single edits -/

theorem Edit.get?_perform {e : Edit} {key : String} (h : e.key ≠ key)
    (entries : SortedMap StoredValue) : (e.perform entries).get? key = entries.get? key := by
  cases e with
  | put k value => exact (SortedMap.get?_put ..).trans (if_neg h)
  | remove k => exact (SortedMap.get?_erase ..).trans (if_neg h)

theorem Edit.key_ofValue (k : StoredKind) (key : String) (v : k.Value) :
    (Edit.ofValue k key v).key = key := by
  rw [ofValue]
  split <;> rfl

/-- The edit that stores a value leaves at its key what stands for the value. -/
theorem Edit.get?_perform_ofValue (k : StoredKind) (key : String) (v : k.Value)
    (entries : SortedMap StoredValue) :
    ((Edit.ofValue k key v).perform entries).get? key = k.encode v := by
  rw [ofValue]
  split
  · next s hs =>
    rw [hs]
    exact (SortedMap.get?_put ..).trans (if_pos rfl)
  · next hnone =>
    rw [hnone]
    exact (SortedMap.get?_erase ..).trans (if_pos rfl)

/-! ## Batches -/

namespace Store

variable (s : Store)

theorem readOnly_commit (edits : List Edit) : (s.commit edits).2.readOnly = s.readOnly := by
  rw [commit]
  split <;> rfl

/-- Whether a batch is made depends on the store alone. -/
theorem made_commit (edits : List Edit) : (s.commit edits).1 = !s.readOnly := by
  rw [commit]
  split <;> simp [*]

/-- A batch without edits changes nothing. -/
theorem commit_nil : (s.commit []).2 = s := by
  rw [commit]
  split <;> rfl

/-- Two batches in a row do what one batch of their edits does. -/
theorem commit_append (edits later : List Edit) :
    s.commit (edits ++ later) = (s.commit edits).2.commit later := by
  cases hread : s.readOnly <;> simp [commit, hread, List.foldl_append]

variable {s}

/-- A batch changes nothing at a key that it does not name. -/
theorem get?_commit {edits : List Edit} {key : String} (h : ∀ e ∈ edits, e.key ≠ key)
    (s : Store) : (s.commit edits).2.get? key = s.get? key := by
  have hfold : ∀ entries : SortedMap StoredValue,
      (edits.foldl Edit.perform entries).get? key = entries.get? key := by
    induction edits with
    | nil => exact fun _ => rfl
    | cons e rest ih =>
      intro entries
      rw [List.foldl_cons, ih fun e' he' => h e' (List.mem_cons_of_mem _ he'),
        Edit.get?_perform (h e List.mem_cons_self)]
  rw [commit]
  split
  · rfl
  · exact hfold s.entries

theorem get?_commit_ofValue (hs : s.readOnly = false) (k : StoredKind) (key : String)
    (v : k.Value) : (s.commit [Edit.ofValue k key v]).2.get? key = k.encode v := by
  rw [commit, hs]
  exact Edit.get?_perform_ofValue k key v s.entries

/-- A batch of removals leaves nothing at the keys that it names. -/
theorem get?_commit_removals (hs : s.readOnly = false) {keys : List String} {key : String}
    (hkey : key ∈ keys) : (s.commit (keys.map .remove)).2.get? key = none := by
  induction keys generalizing s with
  | nil => cases hkey
  | cons k rest ih =>
    rw [List.map_cons, ← List.singleton_append, commit_append]
    have hs' : (s.commit [.remove k]).2.readOnly = false := (s.readOnly_commit _).trans hs
    -- the last removal of the key counts, as none behind it brings the key back
    by_cases hrest : key ∈ rest
    · exact ih hs' hrest
    · obtain rfl : key = k := (List.mem_cons.mp hkey).resolve_right hrest
      rw [get?_commit, commit, hs]
      · exact (SortedMap.get?_erase ..).trans (if_pos rfl)
      · intro e he
        obtain ⟨k', hk', rfl⟩ := List.mem_map.mp he
        exact fun heq => hrest (heq ▸ hk')

/-- Removing keys at which there is nothing changes nothing. -/
theorem commit_removals_of_absent {keys : List String} (h : ∀ key ∈ keys, s.get? key = none) :
    (s.commit (keys.map .remove)).2 = s := by
  induction keys with
  | nil => exact s.commit_nil
  | cons k rest ih =>
    have hk : (s.commit [.remove k]).2 = s := by
      rw [commit]
      split
      · rfl
      · have habsent := SortedMap.erase_of_get?_eq_none (h k List.mem_cons_self)
        simp only [List.foldl_cons, List.foldl_nil, Edit.perform, habsent]
    rw [List.map_cons, ← List.singleton_append, commit_append, hk]
    exact ih fun key hkey => h key (List.mem_cons_of_mem _ hkey)

end Store

end TypedPrefs
