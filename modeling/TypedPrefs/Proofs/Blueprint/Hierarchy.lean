import TypedPrefs.Proofs.Blueprint.DeclaredTypes
import TypedPrefs.Proofs.Types.OwnSupertypes

/-!
# The hierarchy of declared types

A declaration is reported if its name leads back to itself, but not if only a type does. So types
without a report can still be their own supertypes: a supertype that is written as a bare parameter
hands over whatever argument there is, also the type from which the way began.
-/

namespace TypedPrefs.Blueprint

open Declaration Relation

variable {types : List TypeSection}

/-- Without a report there is nothing wrong between the types. -/
theorem problems_of_silent (h : (universeOf types).2 = []) : (universeOf types).1.problems = [] :=
  List.map_eq_nil_iff.mp (List.append_eq_nil_iff.mp h).2

/-- Without a report no name leads back to itself. -/
theorem not_nameExtends_self_of_silent (h : (universeOf types).2 = []) (name : String) :
    ¬ TransGen (universeOf types).1.NameExtends name name := by
  have hcyclic : (universeOf types).1.cyclicNames = [] :=
    List.map_eq_nil_iff.mp (List.append_eq_nil_iff.mp (problems_of_silent h)).2
  rw [← Universe.mem_cyclicNames_iff, hcyclic]
  exact List.not_mem_nil

/-- **When a type is its own supertype.** If nothing is reported about the types of a declaration, a
type is its own supertype exactly if there is a way from it back to it on which an argument is
handed over, which takes a supertype that is written as a bare parameter. There is no such way if
none of the names that it reaches leads back to itself where bare parameters are looked through. -/
theorem own_supertype_iff (hsilent : (universeOf types).2 = []) (t : TypeRef) :
    ((universeOf types).1.ReachesProperly t t ↔
      ∃ s a, (universeOf types).1.Reaches t s ∧ (universeOf types).1.HandsOver s a ∧
        (universeOf types).1.Reaches a t) ∧
    ((∀ name args, (universeOf types).1.Reaches t (.declared name args) →
        ¬ TransGen (universeOf types).1.Leads name name) →
      ¬ (universeOf types).1.ReachesProperly t t) := by
  refine ⟨?_, fun hacyclic => (Universe.isGrounded_iff.mpr hacyclic).not_reachesProperly_self⟩
  exact Universe.reachesProperly_self_iff (isMade_universeOf types)
    (not_nameExtends_self_of_silent hsilent)

/-- Types of which none is its own supertype: `Cats` extends a set of them. -/
theorem own_supertype_iff_cats :
    let types : List TypeSection :=
      [{ name := "Cat", supertypes := ["Animal"] }, { name := "Animal" },
        { name := "Cats", supertypes := ["Set<Cats>"] }]
    (universeOf types).2 = [] ∧
      ∀ t, ¬ (universeOf types).1.ReachesProperly t t := by
  intro types
  obtain ⟨hsilent, hwritten⟩ : (universeOf types).2 = [] ∧
      ∀ e ∈ (universeOf types).1.decls.entries, ∀ p ∈ e.2.supertypes,
        p.declaredName?.isSome = true := by decide +kernel
  refine ⟨hsilent, fun t hself => ?_⟩
  obtain ⟨s, a, -, hhands, -⟩ := (own_supertype_iff hsilent t).1.mp hself
  exact Universe.not_handsOver_of_names hwritten hhands

/-- `Wrap` extends its parameter, and `A` extends `Wrap` of itself: `A` is its own supertype, and
nothing is reported. -/
theorem own_supertype_wrapped :
    let types : List TypeSection :=
      [{ name := "A", supertypes := ["Wrap<A>"] },
        { name := "Wrap", params := ["T"], supertypes := ["T"] }]
    (universeOf types).2 = [] ∧ (universeOf types).1.misfit? (.named "A") = none ∧
      (universeOf types).1.ReachesProperly (.named "A") (.named "A") := by
  intro types
  obtain ⟨hsilent, hfits, hup, hback⟩ : (universeOf types).2 = [] ∧
      (universeOf types).1.misfit? (.named "A") = none ∧
      (universeOf types).1.Extends (.named "A") (.declared "Wrap" [.named "A"]) ∧
      (universeOf types).1.Extends (.declared "Wrap" [.named "A"]) (.named "A") := by
    decide +kernel
  exact ⟨hsilent, hfits, .tail (.single hup) hback⟩

end TypedPrefs.Blueprint
