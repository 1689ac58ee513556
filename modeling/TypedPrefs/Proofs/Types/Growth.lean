import Mathlib.Data.Set.Finite.Lattice
import TypedPrefs.Proofs.Types.Flow

/-!
# Growing supertypes

Each step to a supertype may put its arguments inside new ones. Where an argument gets back to its
own place with something around it, this goes on without end, and there are infinitely many
supertypes.
-/

namespace TypedPrefs.Universe

open Relation

variable {u : Universe} {a b place : Place} {args : List TypeRef} {s : TypeRef}

/-- What flows to a place is found in an argument there, after one or more steps. -/
theorem Feeds.exists_argument {occurrences : TypeRef → List TypeRef}
    (hocc : ∀ bindings q p, q ∈ occurrences p →
      q.instantiate bindings ∈ occurrences (p.instantiate bindings))
    (h : u.Feeds occurrences a b) (hs : args[a.2]? = some s) :
    ∃ args' s', u.ReachesProperly (.declared a.1 args) (.declared b.1 args') ∧
      args'[b.2]? = some s' ∧ s ∈ occurrences s' := by
  obtain ⟨d, x, inner, p, hd, hx, hexposes, hp, hmem⟩ := h
  have hreach := hexposes.reachesProperly hd args
  rw [TypeRef.substitute_declared] at hreach
  refine ⟨_, p.substitute d.paramNames args, hreach, ?_, ?_⟩
  · rw [List.getElem?_map, hp, Option.map_some]
  · have himage : (TypeRef.variable x).substitute d.paramNames args
        ∈ occurrences (p.substitute d.paramNames args) := hocc _ _ _ hmem
    rwa [TypeRef.substitute_variable hx hs] at himage

theorem exists_argument_of_flows (h : ReflTransGen u.Flows a b) (hs : args[a.2]? = some s) :
    ∃ args' s', u.Reaches (.declared a.1 args) (.declared b.1 args') ∧
      args'[b.2]? = some s' ∧ s ∈ s'.parts := by
  induction h with
  | refl => exact ⟨args, s, .refl, hs, s.self_mem_parts⟩
  | tail _ hflow ih =>
    obtain ⟨args₁, s₁, hreach₁, hs₁, hmem₁⟩ := ih
    obtain ⟨args₂, s₂, hreach₂, hs₂, hmem₂⟩ :=
      hflow.exists_argument (fun _ _ _ => TypeRef.instantiate_mem_parts) hs₁
    exact ⟨args₂, s₂, hreach₁.trans hreach₂.to_reflTransGen, hs₂,
      TypeRef.mem_parts_trans hmem₁ hmem₂⟩

/-- What gets wrapped on the way is an inner part of an argument where it arrives. -/
theorem Nests.exists_argument (h : u.Nests a b) (hs : args[a.2]? = some s) :
    ∃ args' s', u.Reaches (.declared a.1 args) (.declared b.1 args') ∧
      args'[b.2]? = some s' ∧ s ∈ s'.innerParts := by
  obtain ⟨c, c', hbefore, hwrap, hafter⟩ := h
  obtain ⟨args₁, s₁, hreach₁, hs₁, hmem₁⟩ := exists_argument_of_flows hbefore hs
  obtain ⟨args₂, s₂, hreach₂, hs₂, hmem₂⟩ :=
    hwrap.exists_argument (fun _ _ _ => TypeRef.instantiate_mem_innerParts) hs₁
  obtain ⟨args₃, s₃, hreach₃, hs₃, hmem₃⟩ := exists_argument_of_flows hafter hs₂
  refine ⟨args₃, s₃, (hreach₁.trans hreach₂.to_reflTransGen).trans hreach₃, hs₃, ?_⟩
  exact TypeRef.mem_innerParts_trans
    (TypeRef.mem_innerParts_of_parts hmem₁ hmem₂) hmem₃

/-- Arguments at a place that grows become as large as one likes. -/
theorem Grows.exists_large_argument (h : u.Grows place) (hplace : place.2 < args.length) (n : Nat) :
    ∃ args' s, u.Reaches (.declared place.1 args) (.declared place.1 args') ∧
      args'[place.2]? = some s ∧ n ≤ s.parts.length := by
  induction n with
  | zero =>
    exact ⟨args, args[place.2], .refl, List.getElem?_eq_getElem hplace, Nat.zero_le _⟩
  | succ n ih =>
    obtain ⟨args₁, s₁, hreach₁, hs₁, hn⟩ := ih
    obtain ⟨args₂, s₂, hreach₂, hs₂, hmem⟩ := Nests.exists_argument h hs₁
    have hlt := TypeRef.length_parts_lt hmem
    exact ⟨args₂, s₂, hreach₁.trans hreach₂, hs₂, by omega⟩

/-- A type that leads to a place that grows has infinitely many supertypes. -/
theorem GrowsFrom.infinite_supertypes {t : TypeRef} (h : u.GrowsFrom t) :
    ¬ {s | u.Reaches t s}.Finite := by
  obtain ⟨name, args, i, hreach, hi, hgrows⟩ := h
  intro hfinite
  -- finitely many types have a bound on their numbers of parts, which an argument exceeds
  obtain ⟨bound, hbound⟩ := (hfinite.image fun s => s.parts.length).bddAbove
  obtain ⟨args', s, hgrown, hs, hlarge⟩ := hgrows.exists_large_argument hi (bound + 1)
  have hle : (TypeRef.declared name args').parts.length ≤ bound :=
    hbound ⟨_, hreach.trans hgrown, rfl⟩
  have hpart : s.parts.length ≤ (TypeRef.declared name args').parts.length :=
    TypeRef.length_parts_le (TypeRef.mem_parts_of_mem_args (List.mem_of_getElem? hs))
  omega

end TypedPrefs.Universe
