import Mathlib.Logic.Relation
import TypedPrefs.Proofs.Types.Parts
import TypedPrefs.Proofs.Types.Supertypes

/-!
# How arguments flow along supertypes

Every supertype is written with the parameters of a declaration, so an argument can only come from
arguments. A place is the position of an argument of a declared name. What a name leads to, whatever
its arguments are, says from which places arguments flow to which others, and where they get
something around them on the way.
-/

namespace TypedPrefs

open Relation

/-! ## Arguments for parameters -/

namespace TypeRef

theorem lookup_zip (params : List String) (args : List TypeRef) (x : String) :
    (params.zip args).lookup x = (params.idxOf? x).bind (args[·]?) := by
  induction params generalizing args with
  | nil => rfl
  | cons param params ih =>
    cases args with
    | nil => simp
    | cons arg args =>
      rw [List.zip_cons_cons, List.lookup_cons, List.idxOf?_cons, BEq.comm]
      cases hx : param == x with
      | true => simp
      | false =>
        rw [if_neg Bool.false_ne_true, Option.bind_map]
        exact ih args

/-- The argument of a parameter, if it has one. -/
theorem substitute_variable {params : List String} {args : List TypeRef} {x : String} {i : Nat}
    {a : TypeRef} (hi : params.idxOf? x = some i) (ha : args[i]? = some a) :
    (TypeRef.variable x).substitute params args = a := by
  rw [substitute, instantiate, lookup_zip, hi, Option.bind_some, ha, Option.getD_some]

/-- Without an argument a variable stays. -/
theorem substitute_variable_cases (params : List String) (args : List TypeRef) (x : String) :
    (∃ i a, params.idxOf? x = some i ∧ args[i]? = some a ∧
      (TypeRef.variable x).substitute params args = a) ∨
    (TypeRef.variable x).substitute params args = .variable x := by
  cases hlookup : (params.zip args).lookup x with
  | none =>
    right
    rw [substitute, instantiate, hlookup, Option.getD_none]
  | some a =>
    left
    obtain ⟨i, hi, ha⟩ := Option.bind_eq_some_iff.mp (lookup_zip params args x ▸ hlookup)
    exact ⟨i, a, hi, ha, substitute_variable hi ha⟩

theorem substitute_declared (params : List String) (args : List TypeRef) (name : String)
    (inner : List TypeRef) :
    (declared name inner).substitute params args
      = .declared name (inner.map (substitute params args)) :=
  instantiate_declared _ name inner

/-- A declared type comes from one that is written with the same name, or it was an argument. -/
theorem substitute_eq_declared {params : List String} {args inner : List TypeRef} {p : TypeRef}
    {name : String} (h : p.substitute params args = .declared name inner) :
    (∃ written, p = .declared name written ∧ inner = written.map (substitute params args)) ∨
      ∃ x i, p = .variable x ∧ params.idxOf? x = some i ∧
        args[i]? = some (.declared name inner) := by
  cases p with
  | primitive kind => cases h
  | void => cases h
  | declared other written =>
    rw [substitute_declared] at h
    obtain ⟨rfl, rfl⟩ := declared.inj h
    exact .inl ⟨written, rfl, rfl⟩
  | «variable» x =>
    rcases substitute_variable_cases params args x with ⟨i, a, hi, ha, heq⟩ | heq
    · exact .inr ⟨x, i, rfl, hi, by rw [ha, ← heq, h]⟩
    · rw [heq] at h
      cases h

end TypeRef

namespace Universe

/-! ## What a name leads to -/

/-- The references that a declared name leads to with any arguments, written with its parameters.
A supertype that is a bare parameter leads to what is written at its position. -/
inductive Exposes (u : Universe) : String → TypeRef → Prop
  | supertype {name : String} {d : TypeDecl} {p : TypeRef} :
      u.get? name = some d → p ∈ d.allSupertypes → Exposes u name p
  | argument {name other x : String} {args : List TypeRef} {d : TypeDecl} {i : Nat} {p : TypeRef} :
      Exposes u name (.declared other args) → Exposes u other (.variable x) →
      u.get? other = some d → d.paramNames.idxOf? x = some i → args[i]? = some p →
      Exposes u name p

/-- What is exposed is reached, with the arguments in place of the parameters. -/
theorem Exposes.reachesProperly {u : Universe} {name : String} {p : TypeRef}
    (h : u.Exposes name p) {d : TypeDecl} (hd : u.get? name = some d) (args : List TypeRef) :
    u.ReachesProperly (.declared name args) (p.substitute d.paramNames args) := by
  induction h generalizing d args with
  | supertype hd' hp =>
    obtain rfl : _ = d := Option.some.inj (hd'.symm.trans hd)
    exact .single ((extends_declared hd).mpr ⟨_, hp, rfl⟩)
  | @argument name other x inner e i p _ _ he hi hp ihname ihother =>
    -- first to the type that has `p` as an argument, then on to that argument
    have hfirst := ihname hd args
    rw [TypeRef.substitute_declared] at hfirst
    have hsecond := ihother he (inner.map (TypeRef.substitute d.paramNames args))
    have himage : (inner.map (TypeRef.substitute d.paramNames args))[i]?
        = some (p.substitute d.paramNames args) := by rw [List.getElem?_map, hp, Option.map_some]
    rw [TypeRef.substitute_variable hi himage] at hsecond
    exact hfirst.trans hsecond

/-! ## Places and flows -/

/-- The position of an argument of a declared name. -/
abbrev Place := String × Nat

/-- An exposed type has an argument at `target` in which the parameter at `source` occurs, where
`occurrences` are the parts that count. -/
def Feeds (u : Universe) (occurrences : TypeRef → List TypeRef) (source target : Place) : Prop :=
  ∃ d x args p, u.get? source.1 = some d ∧ d.paramNames.idxOf? x = some source.2 ∧
    u.Exposes source.1 (.declared target.1 args) ∧ args[target.2]? = some p ∧
    .variable x ∈ occurrences p

/-- An argument is passed on, as it is or inside another one. -/
def Flows (u : Universe) : Place → Place → Prop := u.Feeds TypeRef.parts

/-- An argument is passed on inside another one. -/
def Wraps (u : Universe) : Place → Place → Prop := u.Feeds TypeRef.innerParts

/-- An argument gets from one place to another and has something around it then. -/
def Nests (u : Universe) (source target : Place) : Prop :=
  ∃ a b, ReflTransGen u.Flows source a ∧ u.Wraps a b ∧ ReflTransGen u.Flows b target

/-- An argument gets back to where it was, and has something around it then. -/
def Grows (u : Universe) (place : Place) : Prop := u.Nests place place

/-- A type leads to a place that grows, and there is an argument there. -/
def GrowsFrom (u : Universe) (t : TypeRef) : Prop :=
  ∃ name args i, u.Reaches t (.declared name args) ∧ i < args.length ∧ u.Grows (name, i)

theorem Wraps.flows {u : Universe} {a b : Place} (h : u.Wraps a b) : u.Flows a b := by
  obtain ⟨d, x, args, p, hd, hx, hexposes, hp, hmem⟩ := h
  exact ⟨d, x, args, p, hd, hx, hexposes, hp, TypeRef.mem_parts_of_mem_innerParts hmem⟩

theorem Nests.tail {u : Universe} {a b c : Place} (h : u.Nests a b) (hflow : u.Flows b c) :
    u.Nests a c := by
  obtain ⟨s, t, hs, hwrap, ht⟩ := h
  exact ⟨s, t, hs, hwrap, ht.tail hflow⟩

/-- A place from which something is passed on is the place of a parameter. -/
theorem Flows.source_bound {u : Universe} {a b : Place} (h : u.Flows a b) :
    ∃ d, u.get? a.1 = some d ∧ a.2 < d.params.length := by
  obtain ⟨d, x, args, p, hd, hx, -⟩ := h
  obtain ⟨hlt, -⟩ := List.idxOf?_eq_some_iff.mp hx
  exact ⟨d, hd, by simpa [TypeDecl.paramNames] using hlt⟩

end Universe

end TypedPrefs
