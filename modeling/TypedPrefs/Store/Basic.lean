import TypedPrefs.Store.Value

/-!
# Stores

A store maps keys to stored values. It changes only by batches of edits: either all edits of a batch
are made, in their order, or none is. A class gets by with less: it works with everything that gives
values for keys and takes batches of edits.

`KeyValueStore` is the trait of this name in the run-time library, `Store` its `InMemoryStore`;
`KeyValueStore.read` is `Persisted::read` and `Edit.ofValue` is `into_edit`.
-/

namespace TypedPrefs

/-- A change of a store at one key. -/
inductive Edit where
  | put (key : String) (value : StoredValue)
  | remove (key : String)
  deriving DecidableEq

/-- The key that an edit is about. -/
def Edit.key : Edit → String
  | .put key _ => key
  | .remove key => key

/-- What one edit does to the entries of a store. -/
def Edit.perform (entries : SortedMap StoredValue) : Edit → SortedMap StoredValue
  | .put key value => entries.put key value
  | .remove key => entries.erase key

/-- The edit that stores a value of a kind at a key, or removes the key if nothing is stored for the
value. -/
def Edit.ofValue (k : StoredKind) (key : String) (v : k.Value) : Edit :=
  match k.encode v with
  | some s => .put key s
  | none => .remove key

/-- What a class asks of a store. -/
class KeyValueStore (S : Type) where
  /-- The value at a key. -/
  get? : S → String → Option StoredValue
  /-- Makes a batch of edits. The first part says whether they were made. -/
  commit : S → List Edit → Bool × S

/-- The value of a kind at a key. The default stands in if there is none, or one of another
shape. -/
def KeyValueStore.read {S : Type} [KeyValueStore S] (s : S) (k : StoredKind) (key : String)
    (default : k.Value) : k.Value :=
  match get? s key with
  | none => default
  | some stored => (k.decode stored).getD default

/-- A store. One that is read-only refuses every batch. -/
structure Store where
  entries : SortedMap StoredValue
  readOnly : Bool := false
  deriving DecidableEq

namespace Store

/-- A store without entries. -/
def empty : Store := { entries := .empty }

instance : Inhabited Store := ⟨empty⟩

/-- The value at a key. -/
def get? (s : Store) (key : String) : Option StoredValue := s.entries.get? key

/-- Whether there is a value at a key. -/
def contains (s : Store) (key : String) : Bool := (s.get? key).isSome

/-- Makes a batch of edits. The first part says whether they were made. -/
def commit (s : Store) (edits : List Edit) : Bool × Store :=
  if s.readOnly then (false, s)
  else (true, { s with entries := edits.foldl Edit.perform s.entries })

/-- Makes a batch of edits, without a word on whether they were made. -/
def apply (s : Store) (edits : List Edit) : Store := (s.commit edits).2

/-- The store with a value put at a key from outside, which is possible in a read-only store too. -/
def insert (s : Store) (key : String) (value : StoredValue) : Store :=
  { s with entries := s.entries.put key value }

instance : KeyValueStore Store := ⟨get?, commit⟩

/-- The value of a kind at a key. -/
def read (s : Store) (k : StoredKind) (key : String) (default : k.Value) : k.Value :=
  KeyValueStore.read s k key default

theorem read_eq (s : Store) (k : StoredKind) (key : String) (default : k.Value) :
    s.read k key default =
      match s.get? key with
      | none => default
      | some stored => (k.decode stored).getD default := rfl

end Store

end TypedPrefs
