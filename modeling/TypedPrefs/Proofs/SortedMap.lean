import Mathlib.Data.List.Sort
import TypedPrefs.SortedMap

/-!
# Maps and their look-ups

As the entries are in order and no key comes twice, a map is determined by its look-ups. So puts at
different keys can change places.
-/

namespace TypedPrefs

variable {α : Type}

namespace Entries

theorem get?_of_mem {key : String} {a : α} {entries : List (String × α)} (hsorted : Sorted entries)
    (h : (key, a) ∈ entries) : get? key entries = some a := by
  induction entries with
  | nil => cases h
  | cons head rest ih =>
    obtain ⟨k, b⟩ := head
    obtain ⟨hhead, hrest⟩ := List.pairwise_cons.mp hsorted
    rw [get?]
    rcases List.mem_cons.mp h with heq | hmem
    · cases heq
      rw [if_pos rfl]
    · -- a later key is greater, so the first entry is not the one that is looked for
      have hne : k ≠ key := by
        rintro rfl
        exact String.lt_irrefl k (hhead (k, a) hmem)
      rw [if_neg hne]
      exact ih hrest hmem

end Entries

namespace SortedMap

theorem mem_entries_iff {m : SortedMap α} {key : String} {a : α} :
    (key, a) ∈ m.entries ↔ m.get? key = some a :=
  ⟨Entries.get?_of_mem m.sorted, Entries.mem_of_get?⟩

/-- Maps with the same look-ups are equal. -/
theorem ext_get? {m n : SortedMap α} (h : ∀ key, m.get? key = n.get? key) : m = n := by
  have hmem : ∀ e, e ∈ m.entries ↔ e ∈ n.entries := by
    rintro ⟨key, a⟩
    rw [mem_entries_iff, mem_entries_iff, h]
  have : Std.Irrefl fun a b : String × α => a.1 < b.1 := ⟨fun a => String.lt_irrefl a.1⟩
  have : Std.Antisymm fun a b : String × α => a.1 < b.1 :=
    ⟨fun a b hab hba => absurd (String.lt_trans hab hba) (String.lt_irrefl a.1)⟩
  have hentries : m.entries = n.entries := List.Pairwise.eq_of_mem_iff m.sorted n.sorted hmem
  cases m
  cases n
  cases hentries
  rfl

theorem mem_keys_iff {m : SortedMap α} {key : String} :
    key ∈ m.keys ↔ (m.get? key).isSome = true := by
  rw [keys, List.mem_map, Option.isSome_iff_exists]
  constructor
  · rintro ⟨⟨k, a⟩, hmem, rfl⟩
    exact ⟨a, mem_entries_iff.mp hmem⟩
  · rintro ⟨a, ha⟩
    exact ⟨(key, a), mem_entries_iff.mpr ha, rfl⟩

theorem mem_keys_put {m : SortedMap α} {key k : String} {a : α} :
    k ∈ (m.put key a).keys ↔ k = key ∨ k ∈ m.keys := by
  rw [mem_keys_iff, mem_keys_iff, get?_put]
  by_cases h : key = k
  · simp [h]
  · simp [h, Ne.symm h]

/-- The keys of a map are those of the entries that it is made of. -/
theorem mem_keys_ofList {entries : List (String × α)} {key : String} :
    key ∈ (ofList entries).keys ↔ key ∈ entries.map Prod.fst := by
  have hfold : ∀ m : SortedMap α,
      key ∈ (entries.foldl (fun m e => m.put e.1 e.2) m).keys ↔
        key ∈ entries.map Prod.fst ∨ key ∈ m.keys := by
    induction entries with
    | nil => intro m; simp
    | cons e rest ih =>
      intro m
      rw [List.foldl_cons, ih, mem_keys_put, List.map_cons, List.mem_cons]
      tauto
  rw [ofList, hfold]
  simp [keys, empty]

/-- Puts at different keys can change places. -/
theorem put_comm (m : SortedMap α) {key key' : String} (hne : key ≠ key') (a b : α) :
    (m.put key a).put key' b = (m.put key' b).put key a := by
  apply ext_get?
  intro k
  simp only [get?_put]
  by_cases hkey : key = k
  · have hkey' : ¬ key' = k := fun h => hne (hkey.trans h.symm)
    simp [hkey, hkey']
  · simp [hkey]

/-- Erasing a key at which there is nothing changes nothing. -/
theorem erase_of_get?_eq_none {m : SortedMap α} {key : String} (h : m.get? key = none) :
    m.erase key = m := by
  apply ext_get?
  intro k
  rw [get?_erase]
  split
  · next heq => rw [← heq, h]
  · rfl

end SortedMap

end TypedPrefs
