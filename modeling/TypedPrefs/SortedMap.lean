/-!
# Maps with sorted keys

A map from strings is a list of entries in strictly increasing order of their keys. The order is
part of the type, so two maps with the same look-ups are equal.
-/

namespace TypedPrefs

namespace Entries

/-- Puts an entry at its place among entries in increasing order. An entry with the same key is
replaced. -/
def put {α : Type} (key : String) (a : α) : List (String × α) → List (String × α)
  | [] => [(key, a)]
  | (k, b) :: rest =>
    if key < k then (key, a) :: (k, b) :: rest
    else if key = k then (key, a) :: rest
    else (k, b) :: put key a rest

/-- The entries without those of a key. -/
def erase {α : Type} (key : String) (entries : List (String × α)) : List (String × α) :=
  entries.filter fun e => e.1 != key

/-- The value at a key. -/
def get? {α : Type} (key : String) : List (String × α) → Option α
  | [] => none
  | (k, a) :: rest => if k = key then some a else get? key rest

/-- Whether the keys increase strictly. -/
def Sorted {α : Type} (entries : List (String × α)) : Prop :=
  entries.Pairwise fun a b => a.1 < b.1

theorem mem_of_get? {α : Type} {key : String} {a : α} {entries : List (String × α)}
    (h : get? key entries = some a) : (key, a) ∈ entries := by
  induction entries with
  | nil => cases h
  | cons head rest ih =>
    rw [get?] at h
    split at h
    · next heq =>
      cases h
      exact heq ▸ List.mem_cons_self
    · exact List.mem_cons_of_mem _ (ih h)

theorem mem_put {α : Type} {key : String} {a : α} {e : String × α} {entries : List (String × α)}
    (h : e ∈ put key a entries) : e = (key, a) ∨ e ∈ entries := by
  induction entries with
  | nil => simpa [put] using h
  | cons head rest ih =>
    rw [put] at h
    split at h
    · simpa using h
    · split at h
      · rcases List.mem_cons.1 h with h | h
        · exact .inl h
        · exact .inr (List.mem_cons_of_mem _ h)
      · rcases List.mem_cons.1 h with h | h
        · exact .inr (h ▸ List.mem_cons_self)
        · exact (ih h).imp id (List.mem_cons_of_mem _)

theorem sorted_put {α : Type} (key : String) (a : α) {entries : List (String × α)}
    (h : Sorted entries) : Sorted (put key a entries) := by
  induction entries with
  | nil => simp [put, Sorted]
  | cons head rest ih =>
    obtain ⟨k, b⟩ := head
    have hhead : ∀ e ∈ rest, k < e.1 := fun e he => List.rel_of_pairwise_cons h he
    rw [put]
    split
    · next hlt =>
      refine List.Pairwise.cons (fun e he => ?_) h
      rcases List.mem_cons.1 he with he | he
      · exact he ▸ hlt
      · exact String.lt_trans hlt (hhead e he)
    · split
      · next heq =>
        exact List.Pairwise.cons (fun e he => heq ▸ hhead e he) (List.Pairwise.of_cons h)
      · next hnlt hne =>
        refine List.Pairwise.cons (fun e he => ?_) (ih (List.Pairwise.of_cons h))
        rcases mem_put he with he | he
        · exact he ▸ Std.lt_of_le_of_ne (String.not_lt.1 hnlt) (Ne.symm hne)
        · exact hhead e he

theorem sorted_erase {α : Type} (key : String) {entries : List (String × α)}
    (h : Sorted entries) : Sorted (erase key entries) := h.filter _

theorem get?_put {α : Type} (key key' : String) (a : α) (entries : List (String × α)) :
    get? key' (put key a entries) = if key = key' then some a else get? key' entries := by
  induction entries with
  | nil => rfl
  | cons head rest ih =>
    obtain ⟨k, b⟩ := head
    rw [put]
    split
    · rfl
    · split
      · next heq =>
        subst heq
        by_cases hkey : key = key' <;> simp [get?, hkey]
      · next hne =>
        by_cases hk : k = key'
        · have hkey : ¬ key = key' := fun h => hne (h.trans hk.symm)
          simp [get?, hk, hkey]
        · simp [get?, hk, ih]

theorem get?_erase {α : Type} (key key' : String) (entries : List (String × α)) :
    get? key' (erase key entries) = if key = key' then none else get? key' entries := by
  induction entries with
  | nil => simp [erase, get?]
  | cons head rest ih =>
    obtain ⟨k, b⟩ := head
    by_cases hk : k = key
    · subst hk
      have herase : erase k ((k, b) :: rest) = erase k rest := by simp [erase]
      rw [herase, ih]
      by_cases hkey : k = key' <;> simp [get?, hkey]
    · have herase : erase key ((k, b) :: rest) = (k, b) :: erase key rest := by simp [erase, hk]
      rw [herase, get?, get?, ih]
      by_cases hkey : k = key'
      · have hne : ¬ key = key' := fun h => hk (hkey.trans h.symm)
        simp [hkey, hne]
      · simp [hkey]

end Entries

/-- A map from strings with its entries in increasing order of their keys. -/
structure SortedMap (α : Type) where
  entries : List (String × α)
  sorted : Entries.Sorted entries
  deriving DecidableEq

namespace SortedMap

variable {α : Type}

/-- The map without entries. -/
def empty : SortedMap α := ⟨[], .nil⟩

instance : Inhabited (SortedMap α) := ⟨empty⟩

/-- The value at a key. -/
def get? (m : SortedMap α) (key : String) : Option α := Entries.get? key m.entries

/-- Whether there is an entry at a key. -/
def contains (m : SortedMap α) (key : String) : Bool := (m.get? key).isSome

/-- The map with a value at a key, in place of the one before. -/
def put (m : SortedMap α) (key : String) (a : α) : SortedMap α :=
  ⟨Entries.put key a m.entries, Entries.sorted_put key a m.sorted⟩

/-- The map without the entry at a key. -/
def erase (m : SortedMap α) (key : String) : SortedMap α :=
  ⟨Entries.erase key m.entries, Entries.sorted_erase key m.sorted⟩

/-- The keys in increasing order. -/
def keys (m : SortedMap α) : List String := m.entries.map Prod.fst

/-- The values in the order of their keys. -/
def values (m : SortedMap α) : List α := m.entries.map Prod.snd

/-- The number of entries. -/
def size (m : SortedMap α) : Nat := m.entries.length

/-- The map with the given entries; of several with one key the last counts. -/
def ofList (entries : List (String × α)) : SortedMap α :=
  entries.foldl (fun m e => m.put e.1 e.2) empty

theorem get?_put (m : SortedMap α) (key key' : String) (a : α) :
    (m.put key a).get? key' = if key = key' then some a else m.get? key' :=
  Entries.get?_put key key' a m.entries

theorem get?_erase (m : SortedMap α) (key key' : String) :
    (m.erase key).get? key' = if key = key' then none else m.get? key' :=
  Entries.get?_erase key key' m.entries

end SortedMap

end TypedPrefs
