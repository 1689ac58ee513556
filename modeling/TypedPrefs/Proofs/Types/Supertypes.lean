import Mathlib.Logic.Relation
import TypedPrefs.Types.Subtyping

/-!
# Supertypes as a relation

Direct supertypes are one step of a relation between types. What the walks over supertypes compute
is said here without any walk: a type is a subtype of the types that its steps lead to, and of
`Object` as soon as it is declared or a variable.
-/

namespace TypedPrefs.Universe

open Relation

/-- A direct supertype. -/
def Extends (u : Universe) (a b : TypeRef) : Prop := b ∈ u.directSupertypes a

/-- A type that is reached over any number of direct supertypes. -/
def Reaches (u : Universe) : TypeRef → TypeRef → Prop := ReflTransGen u.Extends

/-- A type that is reached over one or more direct supertypes. -/
def ReachesProperly (u : Universe) : TypeRef → TypeRef → Prop := TransGen u.Extends

/-- The types that have `Object` as a supertype without a declaration that says so. -/
def isUnderObject : TypeRef → Bool
  | .declared _ _ => true
  | .variable _ => true
  | _ => false

/-- A type is a subtype of itself, of `Object`, and of all that its supertypes lead to. -/
def IsSubtype (u : Universe) (a b : TypeRef) : Prop :=
  a = b ∨ (isObject b = true ∧ isUnderObject a = true) ∨ u.ReachesProperly a b

/-! ## Steps -/

theorem extends_declared {u : Universe} {name : String} {args : List TypeRef} {d : TypeDecl}
    (hd : u.get? name = some d) {s : TypeRef} :
    u.Extends (.declared name args) s ↔
      ∃ p ∈ d.allSupertypes, p.substitute d.paramNames args = s := by
  simp [Extends, directSupertypes, hd]

/-- Only declared types have supertypes, and only if there is a declaration. -/
theorem Extends.source {u : Universe} {a b : TypeRef} (h : u.Extends a b) :
    ∃ name args d, a = .declared name args ∧ u.get? name = some d := by
  cases a with
  | declared name args =>
    cases hd : u.get? name with
    | none => simp [Extends, directSupertypes, hd] at h
    | some d => exact ⟨name, args, d, rfl, hd⟩
  | _ => simp [Extends, directSupertypes] at h

/-- A step goes to a written supertype with the arguments in place of the parameters. -/
theorem Extends.exists_supertype {u : Universe} {a b : TypeRef} (h : u.Extends a b) :
    ∃ name args d, a = .declared name args ∧ u.get? name = some d ∧
      ∃ p ∈ d.allSupertypes, p.substitute d.paramNames args = b := by
  obtain ⟨name, args, d, rfl, hd⟩ := h.source
  exact ⟨name, args, d, rfl, hd, (extends_declared hd).mp h⟩

/-- One more step at the start, for a supertype other than `Object`. -/
theorem IsSubtype.step {u : Universe} {a s b : TypeRef} (h : u.IsSubtype s b)
    (hs : u.Extends a s) : u.IsSubtype a b := by
  rcases h with rfl | ⟨hobject, -⟩ | hreach
  · exact .inr (.inr (.single hs))
  · obtain ⟨name, args, d, rfl, -⟩ := hs.source
    exact .inr (.inl ⟨hobject, rfl⟩)
  · exact .inr (.inr (hreach.head hs))

/-- A subtype stays one from any type that leads to it. -/
theorem IsSubtype.of_reaches {u : Universe} {a s b : TypeRef} (hs : u.Reaches a s)
    (h : u.IsSubtype s b) : u.IsSubtype a b := by
  induction hs using ReflTransGen.head_induction_on with
  | refl => exact h
  | head hstep _ ih => exact ih.step hstep

end TypedPrefs.Universe
