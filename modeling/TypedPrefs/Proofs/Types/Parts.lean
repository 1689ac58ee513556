import Mathlib.Data.List.Basic
import TypedPrefs.Types.TypeRef

/-!
# Parts of a reference

The references that occur in a reference, and what instantiation does to them. A part other than
the whole is an inner part; an inner part is always smaller.
-/

namespace TypedPrefs.TypeRef

/-- Induction over references, where a property of a declared type may use it for the arguments. -/
@[elab_as_elim, induction_eliminator]
theorem induction {motive : TypeRef → Prop} (primitive : ∀ kind, motive (.primitive kind))
    (void : motive .void)
    (declared : ∀ name args, (∀ a ∈ args, motive a) → motive (.declared name args))
    (parameter : ∀ name, motive (.variable name)) (t : TypeRef) : motive t :=
  TypeRef.rec (motive_1 := motive) (motive_2 := fun ts => ∀ t ∈ ts, motive t)
    primitive void declared parameter (fun _ h => nomatch h)
    (fun _ _ hhead htail t ht => (List.mem_cons.mp ht).elim (fun h => h ▸ hhead) (htail t)) t

mutual

/-- The references that occur in a reference, itself first. -/
def parts : TypeRef → List TypeRef
  | .declared name args => .declared name args :: partsAmong args
  | .primitive kind => [.primitive kind]
  | .void => [.void]
  | .variable name => [.variable name]

/-- The references that occur in some references. -/
def partsAmong : List TypeRef → List TypeRef
  | [] => []
  | t :: ts => parts t ++ partsAmong ts

end

/-- The parts of a reference other than the whole. -/
def innerParts : TypeRef → List TypeRef
  | .declared _ args => partsAmong args
  | _ => []

/-! ## Membership -/

theorem parts_eq (t : TypeRef) : t.parts = t :: t.innerParts := by
  cases t <;> rfl

@[simp] theorem self_mem_parts (t : TypeRef) : t ∈ t.parts := by
  rw [parts_eq]
  exact List.mem_cons_self

theorem mem_partsAmong {s : TypeRef} {ts : List TypeRef} :
    s ∈ partsAmong ts ↔ ∃ t ∈ ts, s ∈ t.parts := by
  induction ts with
  | nil => simp [partsAmong]
  | cons t ts ih => simp [partsAmong, ih]

theorem mem_innerParts_declared {s : TypeRef} {name : String} {args : List TypeRef} :
    s ∈ (declared name args).innerParts ↔ ∃ a ∈ args, s ∈ a.parts :=
  mem_partsAmong

theorem mem_parts_of_mem_args {a : TypeRef} {name : String} {args : List TypeRef} (h : a ∈ args) :
    a ∈ (declared name args).parts := by
  rw [parts_eq]
  exact List.mem_cons_of_mem _ (mem_innerParts_declared.mpr ⟨a, h, self_mem_parts a⟩)

theorem mem_parts_of_mem_innerParts {s t : TypeRef} (h : s ∈ t.innerParts) : s ∈ t.parts := by
  rw [parts_eq]
  exact List.mem_cons_of_mem _ h

theorem mem_innerParts_of_ne {s t : TypeRef} (h : s ∈ t.parts) (hne : s ≠ t) :
    s ∈ t.innerParts := by
  rw [parts_eq] at h
  exact (List.mem_cons.mp h).resolve_left hne

/-- Parts of parts are parts. -/
theorem mem_parts_trans {a b c : TypeRef} (hab : a ∈ b.parts) (hbc : b ∈ c.parts) :
    a ∈ c.parts := by
  induction c with
  | primitive kind =>
    obtain rfl : b = .primitive kind := by simpa [parts] using hbc
    exact hab
  | void =>
    obtain rfl : b = .void := by simpa [parts] using hbc
    exact hab
  | parameter name =>
    obtain rfl : b = .variable name := by simpa [parts] using hbc
    exact hab
  | declared name args ih =>
    rcases List.mem_cons.mp (parts_eq _ ▸ hbc) with rfl | hbc
    · exact hab
    · obtain ⟨arg, harg, hb⟩ := mem_innerParts_declared.mp hbc
      exact mem_parts_of_mem_innerParts
        (mem_innerParts_declared.mpr ⟨arg, harg, ih arg harg hb⟩)

theorem mem_innerParts_of_parts {a b c : TypeRef} (hab : a ∈ b.parts) (hbc : b ∈ c.innerParts) :
    a ∈ c.innerParts := by
  cases c with
  | declared name args =>
    obtain ⟨arg, harg, hb⟩ := mem_innerParts_declared.mp hbc
    exact mem_innerParts_declared.mpr ⟨arg, harg, mem_parts_trans hab hb⟩
  | _ => simp [innerParts] at hbc

theorem mem_innerParts_trans {a b c : TypeRef} (hab : a ∈ b.innerParts) (hbc : b ∈ c.parts) :
    a ∈ c.innerParts := by
  rcases List.mem_cons.mp (parts_eq c ▸ hbc) with rfl | hbc
  · exact hab
  · exact mem_innerParts_of_parts (mem_parts_of_mem_innerParts hab) hbc

/-! ## Size -/

theorem length_parts_le_partsAmong {t : TypeRef} {ts : List TypeRef} (h : t ∈ ts) :
    t.parts.length ≤ (partsAmong ts).length := by
  induction ts with
  | nil => simp at h
  | cons u us ih =>
    rw [partsAmong, List.length_append]
    rcases List.mem_cons.mp h with rfl | h
    · omega
    · have := ih h
      omega

/-- A part has at most as many parts as the whole. -/
theorem length_parts_le {a b : TypeRef} (h : a ∈ b.parts) : a.parts.length ≤ b.parts.length := by
  induction b with
  | declared name args ih =>
    rcases List.mem_cons.mp (parts_eq _ ▸ h) with rfl | h
    · exact Nat.le_refl _
    · obtain ⟨arg, harg, ha⟩ := mem_innerParts_declared.mp h
      have hlocal := ih arg harg ha
      have hall := length_parts_le_partsAmong harg
      rw [parts, List.length_cons]
      omega
  | _ =>
    simp only [parts, List.mem_singleton] at h
    exact Nat.le_of_eq (by rw [h, parts])

/-- An inner part has fewer parts than the whole. -/
theorem length_parts_lt {a b : TypeRef} (h : a ∈ b.innerParts) :
    a.parts.length < b.parts.length := by
  cases b with
  | declared name args =>
    obtain ⟨arg, harg, ha⟩ := mem_innerParts_declared.mp h
    have hlocal := length_parts_le ha
    have hall := length_parts_le_partsAmong harg
    rw [parts, List.length_cons]
    omega
  | _ => simp [innerParts] at h

/-! ## Instantiation -/

theorem instantiate_declared (bindings : List (String × TypeRef)) (name : String)
    (args : List TypeRef) :
    (declared name args).instantiate bindings
      = .declared name (args.map (instantiate bindings)) := by
  rw [instantiate, instantiateList_eq_map]

/-- Instantiation takes parts to parts. -/
theorem instantiate_mem_parts {bindings : List (String × TypeRef)} {q p : TypeRef}
    (h : q ∈ p.parts) : q.instantiate bindings ∈ (p.instantiate bindings).parts := by
  induction p with
  | declared name args ih =>
    rcases List.mem_cons.mp (parts_eq _ ▸ h) with rfl | h
    · exact self_mem_parts _
    · obtain ⟨arg, harg, hq⟩ := mem_innerParts_declared.mp h
      rw [instantiate_declared]
      exact mem_parts_trans (ih arg harg hq) (mem_parts_of_mem_args (List.mem_map_of_mem harg))
  | _ =>
    simp only [parts, List.mem_singleton] at h
    rw [h]
    exact self_mem_parts _

/-- Instantiation takes inner parts to inner parts. -/
theorem instantiate_mem_innerParts {bindings : List (String × TypeRef)} {q p : TypeRef}
    (h : q ∈ p.innerParts) : q.instantiate bindings ∈ (p.instantiate bindings).innerParts := by
  cases p with
  | declared name args =>
    obtain ⟨arg, harg, hq⟩ := mem_innerParts_declared.mp h
    rw [instantiate_declared]
    exact mem_innerParts_declared.mpr
      ⟨_, List.mem_map_of_mem harg, instantiate_mem_parts hq⟩
  | _ => simp [innerParts] at h

/-- Whether variables occur in a reference can be seen from its parts. -/
theorem containsVariable_eq_false_iff {t : TypeRef} :
    t.containsVariable = false ↔ ∀ x, .variable x ∉ t.parts := by
  induction t with
  | declared name args ih =>
    rw [containsVariable, containsVariableList_eq_any, List.any_eq_false]
    constructor
    · intro h x hx
      rcases List.mem_cons.mp (parts_eq _ ▸ hx) with hx | hx
      · cases hx
      · obtain ⟨arg, harg, hx⟩ := mem_innerParts_declared.mp hx
        exact (ih arg harg).mp (by simpa using h arg harg) x hx
    · intro h arg harg
      rw [Bool.not_eq_true]
      exact (ih arg harg).mpr fun x hx =>
        h x (mem_parts_trans hx (mem_parts_of_mem_args harg))
  | parameter name => simp [containsVariable, parts]
  | _ => simp [containsVariable, parts]

end TypedPrefs.TypeRef
