import TypedPrefs.Proofs.Session.Lifecycle
import TypedPrefs.Proofs.Store.Batch

/-!
# Groups that are given

Once a group is made, an operation with it is the operation with its keys and with the store that
the class is bound to. The first operation makes the group and then does the same. So there is one
lemma here for each way of using a group, and nothing else looks into the cells for that.
-/

namespace TypedPrefs.Session

open Blueprint

variable {x : Serializers} {m : Blueprint.Class} {b b' : Bound} {w w' : World} {g : Group}
  {keys : Keys} {n : Nat}

/-! ## Batches of one store -/

namespace WorldOf

theorem setStore_self (w : World) (n : Nat) : w.setStore n (w.stores n) = w := by
  have hsame : (fun k => if k = n then w.stores n else w.stores k) = w.stores := by
    funext k
    split
    · next heq => rw [heq]
    · rfl
  rw [setStore, hsame]

theorem setStore_setStore (w : World) (n : Nat) (s t : Store) :
    (w.setStore n s).setStore n t = w.setStore n t := by
  simp only [setStore, WorldOf.mk.injEq, and_true]
  funext k
  by_cases hk : k = n <;> simp [hk]

theorem stores_setStore (w : World) (n : Nat) (s : Store) : (w.setStore n s).stores n = s :=
  if_pos rfl

theorem stores_commit (w : World) (n : Nat) (edits : List Edit) :
    (w.commit n edits).2.stores n = ((w.stores n).commit edits).2 :=
  w.stores_setStore n _

/-- A batch of one store changes no other store. -/
theorem stores_commit_of_ne (w : World) {n k : Nat} (hk : k ≠ n) (edits : List Edit) :
    (w.commit n edits).2.stores k = w.stores k :=
  if_neg hk

/-- A batch without effect on its store changes nothing. -/
theorem commit_of_unchanged {w : World} {n : Nat} {edits : List Edit}
    (h : ((w.stores n).commit edits).2 = w.stores n) : (w.commit n edits).2 = w := by
  calc (w.commit n edits).2 = w.setStore n ((w.stores n).commit edits).2 := rfl
    _ = w := by rw [h, setStore_self]

/-- Two batches in a row do what one batch of their edits does. -/
theorem commit_append (w : World) (n : Nat) (edits later : List Edit) :
    w.commit n (edits ++ later) = (w.commit n edits).2.commit n later := by
  have hstore := w.stores_commit n edits
  have hbatch : w.commit n (edits ++ later) =
      (((w.stores n).commit (edits ++ later)).1,
        w.setStore n ((w.stores n).commit (edits ++ later)).2) := rfl
  rw [hbatch, Store.commit_append, ← hstore]
  exact Prod.ext rfl (setStore_setStore ..).symm

end WorldOf

/-! ## Given groups -/

/-- The group is made, with these keys, and the class is bound to this store. -/
def Given (g : Group) (keys : Keys) (n : Nat) (w : World) : Prop :=
  ∃ b, w.bound.content = some b ∧ b.store = n ∧ (b.groups g.accessor).content = some keys

namespace Given

theorem group (h : Given g keys n w) : group g w = (.ok keys, w) := by
  obtain ⟨b, hb, -, hkeys⟩ := h
  exact group_of_filled hb hkeys

theorem underlyingStore (h : Given g keys n w) : underlyingStore w = .ok n := by
  obtain ⟨b, hb, rfl, -⟩ := h
  rw [Session.underlyingStore, PreferencesCell.get, hb]
  rfl

/-- An operation with a given group uses its keys and the store of the class. -/
theorem perform (h : Given g keys n w) (operation : GroupOperation x) :
    perform m w (.group g operation) = performIn keys n w operation := by
  rw [Session.perform, h.group]
  simp only [h.underlyingStore]

/-- Whatever is done, the group stays as it is. -/
theorem later (h : Given g keys n w) (hlater : Later m b w b' w') : Given g keys n w' := by
  obtain ⟨b₀, hb₀, rfl, hkeys⟩ := h
  obtain rfl : b₀ = b := Option.some.inj (hb₀.symm.trans hlater.before)
  exact ⟨b', hlater.after, hlater.store, hlater.cells.content hkeys⟩

theorem of_bound_eq (h : Given g keys n w) (hbound : w'.bound = w.bound) : Given g keys n w' := by
  rw [Given, hbound]
  exact h

theorem commit (h : Given g keys n w) (k : Nat) (edits : List Edit) :
    Given g keys n (w.commit k edits).2 :=
  h.of_bound_eq rfl

end Given

/-- A group that is given once is given from then on, and giving it changes no store. -/
theorem given_of_group (hg : g ∈ m.groups) (hb : w.bound.content = some b)
    (h : group g w = (.ok keys, w')) : Given g keys b.store w' ∧ w'.stores = w.stores := by
  obtain ⟨b', hlater, hkeys⟩ := filled_of_group hg hb h
  have hstores := stores_group g w
  rw [h] at hstores
  exact ⟨⟨b', hlater.after, hlater.store, hkeys⟩, hstores⟩

/-- The two outcomes of asking for a group of a class that is bound: it is not given and nothing
changes, or it is given and no store changes. -/
theorem group_outcomes (hg : g ∈ m.groups) (hb : w.bound.content = some b) :
    (∃ e, Session.group g w = (.error e, w)) ∨
    ∃ keys w₁, Session.group g w = (.ok keys, w₁) ∧ Given g keys b.store w₁ ∧
      w₁.stores = w.stores := by
  rcases hgroup : Session.group g w with ⟨result, w₁⟩
  cases result with
  | error e =>
    have hsame : w₁ = w := by
      rcases group_cases g hb with ⟨keys, -, heq⟩ | ⟨-, ⟨e', -, heq⟩ | ⟨keys, -, heq⟩⟩
      · simp [hgroup] at heq
      · rw [hgroup] at heq
        exact congrArg Prod.snd heq
      · simp [hgroup] at heq
    exact .inl ⟨e, by rw [hsame]⟩
  | ok keys => exact .inr ⟨keys, w₁, rfl, given_of_group hg hb hgroup⟩

/-- So an operation fails without a change, or goes on with the group. Which of the two it is does
not depend on the operation. -/
theorem perform_group_cases (x : Serializers) (hg : g ∈ m.groups) (hb : w.bound.content = some b) :
    (∃ e, ∀ operation : GroupOperation x, perform m w (.group g operation) = (.failed e, w)) ∨
    ∃ keys w₁, Given g keys b.store w₁ ∧ w₁.stores = w.stores ∧
      ∀ operation : GroupOperation x,
        perform m w (.group g operation) = performIn keys b.store w₁ operation := by
  rcases group_outcomes hg hb with ⟨e, hgroup⟩ | ⟨keys, w₁, hgroup, hgiven, hstores⟩
  · refine .inl ⟨e, fun operation => ?_⟩
    rw [perform, hgroup]
  · refine .inr ⟨keys, w₁, hgiven, hstores, fun operation => ?_⟩
    rw [perform, hgroup]
    simp only [hgiven.underlyingStore]

/-! ## What is seen -/

/-- What a getter answers if it finds this value. -/
def shown (x : Serializers) (p : Preference) (t : p.binding.kind.Value) : Answer x :=
  match (exposure x p).serializer.deserialize t with
  | .ok v => .value p v
  | .error e => .refused e

theorem performIn_get (keys : Keys) (n : Nat) (w : World) (p : Preference) :
    performIn keys n w (.get p) =
      (shown x p ((w.stores n).read p.binding.kind (keys.of p) (storedDefault p)), w) := by
  rw [performIn, shown, read, Store.read]
  split <;> simp [*]

theorem exposure_of_plain {p : Preference} (h : p.binding.construction = .none) :
    exposure x p = .plain p.binding.kind := by
  rw [exposure, h]

theorem exposure_of_serializer {p : Preference} (h : p.binding.construction ≠ .none) :
    exposure x p = x p := by
  rw [exposure]
  split
  · next hnone => exact absurd hnone h
  · rfl

/-- Without a serializer the values that are seen are those that are stored. -/
theorem source_of_plain {p : Preference} (h : p.binding.construction = .none) :
    Source x p = p.binding.kind.Value := by
  rw [Source, exposure_of_plain h]
  rfl

/-- A stored value of a preference without a serializer as it is seen. -/
def asSeen {p : Preference} (h : p.binding.construction = .none) (t : p.binding.kind.Value) :
    Source x p :=
  cast (source_of_plain h).symm t

/-- What is seen is stored as it is. -/
theorem serialize_asSeen {p : Preference} (h : p.binding.construction = .none)
    (t : p.binding.kind.Value) :
    (exposure x p).serializer.serialize (asSeen h t) = .ok t := by
  have hplain : ∀ e : Exposure p.binding.kind, (heq : e = .plain p.binding.kind) →
      e.serializer.serialize (cast (by rw [heq]; rfl) t) = .ok t := by
    rintro e rfl
    rfl
  exact hplain _ (exposure_of_plain h)

theorem shown_of_plain {p : Preference} (h : p.binding.construction = .none)
    (t : p.binding.kind.Value) : shown x p t = .value p (asSeen h t) := by
  have hplain : ∀ e : Exposure p.binding.kind, (heq : e = .plain p.binding.kind) →
      e.serializer.deserialize t = .ok (cast (by rw [heq]; rfl) t) := by
    rintro e rfl
    rfl
  rw [shown, hplain _ (exposure_of_plain h)]
  rfl

end TypedPrefs.Session
