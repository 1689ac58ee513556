import TypedPrefs.Proofs.Blueprint.DeclarationTexts
import TypedPrefs.Proofs.Types.Canonical
import TypedPrefs.Proofs.Types.Substitution

/-!
# Supertypes of instances

References are read without variables, and only the parameters of the declaration around them become
some. So a declaration, built in or read, has no others in its supertypes. The supertypes of an
instance then follow its arguments: whatever replaces variables in the arguments replaces them in
the supertypes, and the instance with the parameters as arguments shows the supertypes of all.
-/

namespace TypedPrefs

theorem TypeRef.IsWritten.isOver {t : TypeRef} (h : IsWritten t) : t.IsOver [] := by
  induction h with
  | primitive kind => exact isOver_primitive kind
  | void => exact isOver_void
  | declared _ _ ih => exact isOver_declared.mpr ih

namespace Blueprint

open Declaration

variable {types : List TypeSection} {d : TypeDecl} {name : String}

/-- The only variables of a reference are the parameters around it. -/
theorem IsReference.isOver {params : List String} {t : TypeRef} (h : IsReference params t) :
    t.IsOver params := by
  obtain ⟨text, t', hparse, rfl⟩ := h
  exact TypeRef.isOver_withVariables (TypeRef.isWritten_of_parse hparse).isOver

theorem isClosed_builtin (h : Universe.builtin.get? name = some d) : d.IsClosed := by
  -- only the serializer of enums has a supertype with a variable
  have hwritten : ∀ e ∈ Universe.builtin.decls.entries, ∀ t ∈ e.2.supertypes,
      t = .named Builtin.number ∨ e.2 = Universe.enumSerializer := by decide +kernel
  intro t ht
  rcases hwritten _ (Entries.mem_of_get? h) t ht with rfl | heq
  · simp [TypeRef.named]
  · obtain rfl : d = Universe.enumSerializer := heq
    obtain rfl := List.mem_singleton.mp ht
    simp [TypeDecl.paramNames, Universe.enumSerializer, TypeRef.named]

theorem isClosed_universeOf (h : (universeOf types).1.get? name = some d) : d.IsClosed := by
  rcases exists_of_get?_universeOf h with hbuiltin | ⟨s, -, hread⟩
  · exact isClosed_builtin hbuiltin
  · exact fun t ht => (hread.supertypes t ht).isOver

/-- **Inheritance commutes with instantiation.** The supertypes of every declared type have no
variables but its parameters. Where an instance has an argument for each of them, any replacement of
variables in the arguments is the same replacement in the direct supertypes, in their order. They
are those of the type with its own parameters as arguments, with the arguments put in for these. -/
theorem supertypes_follow_arguments (hd : (universeOf types).1.get? name = some d) :
    (∀ t ∈ d.allSupertypes, ∀ x, .variable x ∈ t.parts → x ∈ d.paramNames) ∧
    ∀ args : List TypeRef, args.length = d.params.length →
      (∀ σ : String → TypeRef,
        (universeOf types).1.directSupertypes (.declared name (args.map (TypeRef.replace σ))) =
          ((universeOf types).1.directSupertypes (.declared name args)).map (TypeRef.replace σ)) ∧
      (universeOf types).1.directSupertypes (.declared name args) =
        ((universeOf types).1.directSupertypes d.selfType).map
          (TypeRef.substitute d.paramNames args) := by
  have hclosed := isClosed_universeOf hd
  obtain rfl := (isMade_universeOf types).name_eq hd
  refine ⟨fun t ht => hclosed.isOver_of_mem ht, fun args hlength => ⟨fun σ => ?_, ?_⟩⟩
  · exact Universe.directSupertypes_replace σ hd hclosed hlength
  · exact Universe.directSupertypes_selfType hd args

/-- The arguments of an enum have variables that are named like its parameters, in the places of one
another. -/
theorem supertypes_follow_arguments_pair :
    let types : List TypeSection := [{ name := "Map", params := ["K", "V"] },
      { name := "Pair", kind := .enum, params := ["A", "B"], supertypes := ["Map<B, Set<A>>"] }]
    let u := (universeOf types).1
    let sets (t : TypeRef) : TypeRef := .declared "Set" [t]
    let a := TypeRef.variable "A"
    let b := TypeRef.variable "B"
    let σ (x : String) := if x = "A" then b else if x = "B" then sets a else .variable x
    let pair := TypeRef.declared "Pair" [sets b, a]
    (u.get? "Pair").map TypeDecl.paramNames = some ["A", "B"] ∧
      u.directSupertypes pair =
        [.declared "Map" [a, sets (sets b)], .declared Builtin.enum [pair]] ∧
      u.directSupertypes (.declared "Pair" [sets (sets a), b]) =
        (u.directSupertypes pair).map (TypeRef.replace σ) := by
  intro types u sets a b σ pair
  obtain ⟨d, hd⟩ : ∃ d, u.get? "Pair" = some d :=
    Option.isSome_iff_exists.mp (by decide +kernel)
  have hnames : (u.get? "Pair").map TypeDecl.paramNames = some ["A", "B"] := by decide +kernel
  have hlength : [sets b, a].length = d.params.length := by
    have hparams : d.paramNames = ["A", "B"] := by simpa [hd] using hnames
    simpa [TypeDecl.paramNames] using (congrArg List.length hparams).symm
  obtain ⟨-, hinstances⟩ := supertypes_follow_arguments hd
  obtain ⟨hreplace, -⟩ := hinstances _ hlength
  exact ⟨hnames, by decide +kernel, hreplace σ⟩

end Blueprint

end TypedPrefs
