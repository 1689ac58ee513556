import Mathlib.Data.Finite.Prod
import Mathlib.Data.Set.Finite.Lattice
import TypedPrefs.Proofs.Types.Flow

/-!
# Types that are built from what is written down

Supertypes are built by putting references in place of the variables of others that are written in
a declaration. What can be built in so many rounds is a finite set of references.
-/

namespace TypedPrefs

/-! ## Instances -/

namespace TypeRef

/-- The references that come from `p` if variables stand for references in `images`. -/
def instances (images : Set TypeRef) (p : TypeRef) : Set TypeRef :=
  {s | ∃ bindings,
    (∀ x, .variable x ∈ p.parts → (TypeRef.variable x).instantiate bindings ∈ images) ∧
      p.instantiate bindings = s}

/-- Lists of which each member is in the set for it. -/
theorem finite_forall₂_mem {α β : Type} {sets : α → Set β} {as : List α}
    (h : ∀ a ∈ as, (sets a).Finite) :
    {bs | List.Forall₂ (fun a b => b ∈ sets a) as bs}.Finite := by
  induction as with
  | nil => exact (Set.finite_singleton []).subset fun bs hbs => by simpa using hbs
  | cons a as ih =>
    have hrest := ih fun b hb => h b (List.mem_cons_of_mem _ hb)
    refine (Set.Finite.image2 List.cons (h a List.mem_cons_self) hrest).subset ?_
    rintro bs hbs
    obtain ⟨b, rest, hb, hrest, rfl⟩ := List.forall₂_cons_left_iff.mp hbs
    exact ⟨b, hb, rest, hrest, rfl⟩

/-- Finitely many images make finitely many instances. -/
theorem finite_instances {images : Set TypeRef} (himages : images.Finite) (p : TypeRef) :
    (instances images p).Finite := by
  induction p with
  | primitive kind =>
    refine (Set.finite_singleton (.primitive kind)).subset ?_
    rintro s ⟨bindings, -, rfl⟩
    rfl
  | void =>
    refine (Set.finite_singleton .void).subset ?_
    rintro s ⟨bindings, -, rfl⟩
    rfl
  | parameter x =>
    refine himages.subset ?_
    rintro s ⟨bindings, hx, rfl⟩
    exact hx x (self_mem_parts _)
  | declared name args ih =>
    refine ((finite_forall₂_mem ih).image (declared name)).subset ?_
    rintro s ⟨bindings, hx, rfl⟩
    refine ⟨args.map (instantiate bindings), ?_, (instantiate_declared bindings name args).symm⟩
    refine List.forall₂_map_right_iff.mpr (List.forall₂_same.mpr fun a ha => ?_)
    exact ⟨bindings, fun x hmem => hx x (mem_parts_trans hmem (mem_parts_of_mem_args ha)), rfl⟩

end TypeRef

namespace Universe

/-! ## What is written down -/

/-- The parts of a type and of all supertypes that are written in declarations. -/
def written (u : Universe) (t : TypeRef) : Set TypeRef :=
  {p | p ∈ t.parts} ∪ {p | ∃ name d, u.get? name = some d ∧ ∃ q ∈ d.allSupertypes, p ∈ q.parts}

theorem finite_written (u : Universe) (t : TypeRef) : (u.written t).Finite := by
  refine t.parts.finite_toSet.union ?_
  refine (List.finite_toSet (u.decls.entries.flatMap fun e =>
    e.2.allSupertypes.flatMap TypeRef.parts)).subset ?_
  rintro p ⟨name, d, hd, q, hq, hp⟩
  exact List.mem_flatMap.mpr
    ⟨(name, d), Entries.mem_of_get? hd, List.mem_flatMap.mpr ⟨q, hq, hp⟩⟩

/-- Parts of what is written down are written down. -/
theorem mem_written_of_mem_parts {u : Universe} {t p q : TypeRef} (hq : q ∈ u.written t)
    (hp : p ∈ q.parts) : p ∈ u.written t := by
  rcases hq with hq | ⟨name, d, hd, r, hr, hq⟩
  · exact .inl (TypeRef.mem_parts_trans hp hq)
  · exact .inr ⟨name, d, hd, r, hr, TypeRef.mem_parts_trans hp hq⟩

theorem Exposes.mem_written {u : Universe} {name : String} {p : TypeRef}
    (h : u.Exposes name p) (t : TypeRef) : p ∈ u.written t := by
  induction h with
  | supertype hd hp => exact .inr ⟨_, _, hd, _, hp, TypeRef.self_mem_parts _⟩
  | argument _ _ _ _ hp ihname _ =>
    exact mem_written_of_mem_parts ihname
      (TypeRef.mem_parts_of_mem_args (List.mem_of_getElem? hp))

/-- What can be built from what is written down in `n` rounds. -/
def layer (u : Universe) (t : TypeRef) : Nat → Set TypeRef
  | 0 => u.written t
  | n + 1 => layer u t n ∪ ⋃ p ∈ u.written t, TypeRef.instances (layer u t n) p

theorem finite_layer (u : Universe) (t : TypeRef) (n : Nat) : (u.layer t n).Finite := by
  induction n with
  | zero => exact u.finite_written t
  | succ n ih =>
    exact ih.union ((u.finite_written t).biUnion fun p _ => TypeRef.finite_instances ih p)

theorem layer_mono (u : Universe) (t : TypeRef) {m n : Nat} (h : m ≤ n) :
    u.layer t m ⊆ u.layer t n := by
  induction h with
  | refl => exact Set.Subset.refl _
  | step _ ih => exact ih.trans Set.subset_union_left

theorem mem_layer_of_mem_written {u : Universe} {t p : TypeRef} (h : p ∈ u.written t) (n : Nat) :
    p ∈ u.layer t n :=
  u.layer_mono t (Nat.zero_le n) h

/-- A written reference with arguments from one round belongs to the next. -/
theorem substitute_mem_layer {u : Universe} {t p : TypeRef} {params : List String}
    {args : List TypeRef} {n : Nat} (hp : p ∈ u.written t)
    (hargs : ∀ x i a, .variable x ∈ p.parts → params.idxOf? x = some i → args[i]? = some a →
      a ∈ u.layer t n) :
    p.substitute params args ∈ u.layer t (n + 1) := by
  refine .inr (Set.mem_biUnion hp ⟨params.zip args, fun x hx => ?_, rfl⟩)
  show (TypeRef.variable x).substitute params args ∈ u.layer t n
  rcases TypeRef.substitute_variable_cases params args x with ⟨i, a, hi, ha, heq⟩ | heq
  · rw [heq]
    exact hargs x i a hx hi ha
  · rw [heq]
    exact mem_layer_of_mem_written (mem_written_of_mem_parts hp hx) n

end Universe

end TypedPrefs
