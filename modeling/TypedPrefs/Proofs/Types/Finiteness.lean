import Mathlib.Data.Set.Card
import TypedPrefs.Proofs.Types.Growth
import TypedPrefs.Proofs.Types.Layers

/-!
# Finitely many supertypes

Where no argument gets back to its own place with something around it, only finitely many types are
reached. An argument is then wrapped at most once for each place from which it can come, so there is
a bound on the rounds in which it is built.
-/

namespace TypedPrefs.Universe

open Relation

/-! ## Ranks of places -/

/-- The number of places from which something is wrapped on its way to a place. -/
noncomputable def rank (u : Universe) (place : Place) : Nat := {a | u.Nests a place}.ncard

theorem finite_places (u : Universe) :
    {a : Place | ∃ d, u.get? a.1 = some d ∧ a.2 < d.params.length}.Finite := by
  refine (List.finite_toSet (u.decls.entries.flatMap fun e =>
    (List.range e.2.params.length).map fun i => (e.1, i))).subset ?_
  rintro ⟨name, i⟩ ⟨d, hd, hi⟩
  exact List.mem_flatMap.mpr ⟨(name, d), Entries.mem_of_get? hd,
    List.mem_map.mpr ⟨i, List.mem_range.mpr hi, rfl⟩⟩

theorem Nests.source_bound {u : Universe} {a b : Place} (h : u.Nests a b) :
    ∃ d, u.get? a.1 = some d ∧ a.2 < d.params.length := by
  obtain ⟨c, c', hbefore, hwrap, -⟩ := h
  rcases hbefore.cases_head with rfl | ⟨e, hflow, -⟩
  · exact hwrap.flows.source_bound
  · exact hflow.source_bound

theorem finite_nests (u : Universe) (place : Place) : {a | u.Nests a place}.Finite :=
  u.finite_places.subset fun _ h => h.source_bound

theorem rank_le_card (u : Universe) (place : Place) :
    u.rank place ≤ {a : Place | ∃ d, u.get? a.1 = some d ∧ a.2 < d.params.length}.ncard :=
  Set.ncard_le_ncard (fun _ h => h.source_bound) u.finite_places

theorem Flows.rank_le {u : Universe} {a b : Place} (h : u.Flows a b) : u.rank a ≤ u.rank b :=
  Set.ncard_le_ncard (fun _ hnests => hnests.tail h) (u.finite_nests b)

/-- Ranks increase where something is wrapped. -/
theorem Wraps.rank_lt {u : Universe} {a b : Place} (h : u.Wraps a b) (hgrows : ¬ u.Grows a) :
    u.rank a < u.rank b := by
  refine Set.ncard_lt_ncard ⟨fun _ hnests => hnests.tail h.flows, fun hsubset => hgrows ?_⟩
    (u.finite_nests b)
  exact hsubset (⟨a, b, .refl, h, .refl⟩ : u.Nests a b)

/-! ## The arguments that come up -/

/-- A declared name with arguments that come up among the supertypes of `t`: those of a part of `t`,
and those that are written in what comes up. -/
inductive Arises (u : Universe) (t : TypeRef) : String → List TypeRef → Prop
  | part {name : String} {args : List TypeRef} :
      .declared name args ∈ t.parts → u.Reaches t (.declared name args) → Arises u t name args
  | exposed {name other : String} {args inner : List TypeRef} {d : TypeDecl} :
      Arises u t name args → u.get? name = some d → u.Exposes name (.declared other inner) →
      Arises u t other (inner.map (TypeRef.substitute d.paramNames args))

section Arises

variable {u : Universe} {t : TypeRef} {name : String} {args : List TypeRef}

theorem Arises.reaches (h : u.Arises t name args) : u.Reaches t (.declared name args) := by
  induction h with
  | part _ hreach => exact hreach
  | @exposed name other args inner d _ hd hexposes ih =>
    have hstep := hexposes.reachesProperly hd args
    rw [TypeRef.substitute_declared] at hstep
    exact ih.trans hstep.to_reflTransGen

/-- An argument that a bare parameter leads to comes up in its own right. The induction follows the
argument back to where it is written with its own name. -/
theorem Arises.argument (h : u.Arises t name args) {d : TypeDecl} {x other : String} {i : Nat}
    {inner : List TypeRef} (hd : u.get? name = some d) (hexposes : u.Exposes name (.variable x))
    (hi : d.paramNames.idxOf? x = some i) (hinner : args[i]? = some (.declared other inner)) :
    u.Arises t other inner := by
  induction h generalizing d x i with
  | @part name args hpart hreach =>
    refine .part ?_ ?_
    · exact TypeRef.mem_parts_trans
        (TypeRef.mem_parts_of_mem_args (List.mem_of_getElem? hinner)) hpart
    · have hstep := hexposes.reachesProperly hd args
      rw [TypeRef.substitute_variable hi hinner] at hstep
      exact hreach.trans hstep.to_reflTransGen
  | @exposed name₀ name args₀ written d₀ harises hd₀ hwritten ih =>
    rw [List.getElem?_map] at hinner
    obtain ⟨p, hp, heq⟩ := Option.map_eq_some_iff.mp hinner
    have hexposed : u.Exposes name₀ p := .argument hwritten hexposes hd hi hp
    rcases TypeRef.substitute_eq_declared heq with ⟨inner, rfl, rfl⟩ | ⟨y, j, rfl, hj, ha⟩
    · exact .exposed harises hd₀ hexposed
    · -- the argument was only handed on: it is an argument of the name before
      exact ih hd₀ hexposed hj ha

/-- Every declared type that is reached comes up. -/
theorem arises_of_reaches {s : TypeRef} (h : u.Reaches t s) :
    ∀ name args, s = .declared name args → u.Arises t name args := by
  induction h with
  | refl =>
    rintro name args rfl
    exact .part (TypeRef.self_mem_parts _) .refl
  | @tail s s' hreach hstep ih =>
    rintro other inner rfl
    obtain ⟨name, args, d, rfl, hd, p, hp, heq⟩ := hstep.exists_supertype
    have harises := ih name args rfl
    have hexposes : u.Exposes name p := .supertype hd hp
    rcases TypeRef.substitute_eq_declared heq with ⟨written, rfl, rfl⟩ | ⟨x, i, rfl, hi, ha⟩
    · exact .exposed harises hd hexposes
    · exact harises.argument hd hexposes hi ha

/-- Where nothing grows, an argument is built in as many rounds as the rank of its place says. -/
theorem Arises.mem_layer (h : u.Arises t name args) (hgrows : ¬ u.GrowsFrom t) {i : Nat}
    {a : TypeRef} (ha : args[i]? = some a) :
    a ∈ u.layer t (u.rank (name, i) + 1) := by
  induction h generalizing i a with
  | part hpart _ =>
    refine mem_layer_of_mem_written (.inl ?_) _
    exact TypeRef.mem_parts_trans (TypeRef.mem_parts_of_mem_args (List.mem_of_getElem? ha)) hpart
  | @exposed name₀ name args₀ inner d harises hd hexposes ih =>
    rw [List.getElem?_map] at ha
    obtain ⟨p, hp, rfl⟩ := Option.map_eq_some_iff.mp ha
    have hwritten : p ∈ u.written t :=
      mem_written_of_mem_parts (hexposes.mem_written t)
        (TypeRef.mem_parts_of_mem_args (List.mem_of_getElem? hp))
    -- a bare parameter hands on its argument; anything else takes a round of its own
    by_cases hbare : ∃ x, p = .variable x
    · obtain ⟨x, rfl⟩ := hbare
      rcases TypeRef.substitute_variable_cases d.paramNames args₀ x
        with ⟨j, b, hj, hb, hsubst⟩ | hsubst
      · have hflow : u.Flows (name₀, j) (name, i) :=
          ⟨d, x, inner, _, hd, hj, hexposes, hp, TypeRef.self_mem_parts _⟩
        rw [hsubst]
        exact u.layer_mono t (Nat.succ_le_succ hflow.rank_le) (ih hb)
      · rw [hsubst]
        exact mem_layer_of_mem_written hwritten _
    · refine substitute_mem_layer hwritten fun x j b hx hj hb => ?_
      have hwrap : u.Wraps (name₀, j) (name, i) :=
        ⟨d, x, inner, p, hd, hj, hexposes, hp,
          TypeRef.mem_innerParts_of_ne hx fun heq => hbare ⟨x, heq.symm⟩⟩
      have hplace : j < args₀.length := (List.getElem?_eq_some_iff.mp hb).1
      have hlt := hwrap.rank_lt fun hback =>
        hgrows ⟨name₀, args₀, j, harises.reaches, hplace, hback⟩
      exact u.layer_mono t hlt (ih hb)

end Arises

/-! ## The supertypes -/

/-- If no place that is reached grows, only finitely many types are reached. -/
theorem finite_supertypes {u : Universe} {t : TypeRef} (hgrows : ¬ u.GrowsFrom t) :
    {s | u.Reaches t s}.Finite := by
  let bound := {a : Place | ∃ d, u.get? a.1 = some d ∧ a.2 < d.params.length}.ncard
  refine (u.finite_layer t (bound + 2)).subset fun s hreach => ?_
  -- the last step instantiates a written supertype, with arguments of bounded rank
  rcases ReflTransGen.cases_tail hreach with rfl | ⟨r, hbefore, hstep⟩
  · exact mem_layer_of_mem_written (.inl (TypeRef.self_mem_parts _)) _
  · obtain ⟨name, args, d, rfl, hd, p, hp, rfl⟩ := hstep.exists_supertype
    have harises := arises_of_reaches hbefore name args rfl
    have hwritten : p ∈ u.written t := .inr ⟨name, d, hd, p, hp, TypeRef.self_mem_parts p⟩
    refine substitute_mem_layer hwritten fun x i a _ _ ha => ?_
    have hrank := u.rank_le_card (name, i)
    exact u.layer_mono t (Nat.succ_le_succ hrank) (harises.mem_layer hgrows ha)

/-- A type has finitely many supertypes exactly if it does not lead to a place that grows. -/
theorem finite_supertypes_iff {u : Universe} {t : TypeRef} :
    {s | u.Reaches t s}.Finite ↔ ¬ u.GrowsFrom t :=
  ⟨fun hfinite hgrows => hgrows.infinite_supertypes hfinite, finite_supertypes⟩

/-- All types have finitely many supertypes exactly if no place grows. -/
theorem forall_finite_supertypes_iff {u : Universe} :
    (∀ t, {s | u.Reaches t s}.Finite) ↔ ∀ place, ¬ u.Grows place := by
  constructor
  · intro hfinite place hgrows
    let t := TypeRef.declared place.1 (List.replicate (place.2 + 1) .void)
    have hlead : u.GrowsFrom t := ⟨_, _, place.2, .refl, by simp, hgrows⟩
    exact finite_supertypes_iff.mp (hfinite t) hlead
  · rintro hgrows t
    refine finite_supertypes ?_
    rintro ⟨name, args, i, -, -, hplace⟩
    exact hgrows (name, i) hplace

end TypedPrefs.Universe
