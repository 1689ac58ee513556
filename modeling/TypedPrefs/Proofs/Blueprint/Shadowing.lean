import TypedPrefs.Proofs.Blueprint.RootNames
import TypedPrefs.Proofs.Blueprint.UsableNames
import TypedPrefs.Proofs.Naming.Case

/-!
# Types that hide primitives

Generated code writes primitives by their bare names, in which they are open to anything in the
module with the same name. The types of groups begin with a capital or with no letter of ASCII, and
the type of the state is too long; the class keeps the name that it was declared with, and nothing
compares it with the primitives.
-/

namespace TypedPrefs.Blueprint

open Declaration Naming

/-- The types that generated code writes without a path. -/
def bareTypeNames : List String := "str" :: PrimitiveKind.all.map PrimitiveKind.codeName

/-! ## Groups -/

/-- All of them are short and begin with a small letter. -/
theorem shape_of_mem_bareTypeNames :
    ∀ name ∈ bareTypeNames, beginsSmall name = true ∧ name.length < 5 := by decide +kernel

/-- No type of a group begins like a primitive. -/
theorem IsCheckedGroup.beginsSmall_items {c : Context} {index : Nat} {s : GroupSection} {g : Group}
    (h : IsCheckedGroup c index s g) : ∀ name ∈ g.itemNames, beginsSmall name = false := by
  have htype : beginsSmall g.typeName = false := h.typeName_eq ▸ beginsSmall_pascalCase s.name
  intro name hname
  simp only [Group.itemNames, List.mem_cons, List.not_mem_nil, or_false] at hname
  rcases hname with rfl | rfl | rfl
  · exact htype
  · exact beginsSmall_append htype (by simp [beginsSmall, Text.isSmall])
  · exact beginsSmall_append htype (by simp [beginsSmall, Text.isSmall])

theorem IsCheckedGroup.items_not_bare {c : Context} {index : Nat} {s : GroupSection} {g : Group}
    (h : IsCheckedGroup c index s g) : ∀ name ∈ g.itemNames, name ∉ bareTypeNames := by
  intro name hname hbare
  obtain ⟨hsmall, -⟩ := shape_of_mem_bareTypeNames name hbare
  rw [h.beginsSmall_items name hname] at hsmall
  cases hsmall

/-! ## The class -/

/-- The type of the state is longer than any primitive. -/
theorem stateTypeName_not_bare (className : String) : stateTypeName className ∉ bareTypeNames := by
  intro hbare
  obtain ⟨-, hlength⟩ := shape_of_mem_bareTypeNames _ hbare
  rw [stateTypeName, String.length_append] at hlength
  exact absurd hlength (Nat.not_lt.mpr (Nat.le_add_left 5 className.length))

/-- Among the types of a class only the class itself can be named like a primitive. -/
theorem eq_className_of_bare {depth : Nat} {d : Declaration} {m : Class} {ds : List Diagnostic}
    (h : build depth d = (some m, ds)) {name : String} (hname : name ∈ typeItems m)
    (hbare : name ∈ bareTypeNames) : name = m.className := by
  rcases List.mem_append.mp hname with hname | hname
  · rcases List.mem_pair.mp hname with rfl | rfl
    · rfl
    · exact absurd hbare (stateTypeName_not_bare m.className)
  · obtain ⟨g, hg, hname⟩ := List.mem_flatMap.mp hname
    obtain ⟨i, s, reported, -, hkept, -⟩ := (isCheckedClass_of_build h).exists_of_mem hg
    exact absurd hbare ((isCheckedGroup_of_group hkept).items_not_bare name hname)

theorem getLast?_of_build {depth : Nat} {d : Declaration} {m : Class} {ds : List Diagnostic}
    (h : build depth d = (some m, ds)) :
    (Text.splitAtChar '.' d.main.name).getLast? = some m.className := by
  obtain ⟨hsegments, -⟩ := segments_of_className? (isCheckedClass_of_build h).className
  rw [hsegments, List.getLast?_concat]

/-- **When a type hides a primitive.** Of the types of a class that is built, whether there are
errors or not, none is named like a primitive but the class itself, whose name is the last part of
the declared one. So primitives keep their meaning in its module exactly if that part is no name of
a primitive, which nothing checks. -/
theorem items_bare_iff {depth : Nat} {d : Declaration} {m : Class} {ds : List Diagnostic}
    (h : build depth d = (some m, ds)) :
    (Text.splitAtChar '.' d.main.name).getLast? = some m.className ∧
    (∀ name ∈ typeItems m, name ∈ bareTypeNames → name = m.className) ∧
    ((∀ name ∈ typeItems m, name ∉ bareTypeNames) ↔ m.className ∉ bareTypeNames) := by
  refine ⟨getLast?_of_build h, fun _ => eq_className_of_bare h, ?_, ?_⟩
  · intro hfree
    exact hfree m.className (List.mem_append_left _ List.mem_cons_self)
  · intro hclass name hname hbare
    exact hclass (eq_className_of_bare h hname hbare ▸ hbare)

/-- Groups that are named like primitives get types that are not. -/
theorem items_bare_iff_bool_i32 :
    ∃ m ds, build 10 (classOfGroups ["bool", "i32"]) = (some m, ds) ∧
      Diagnostic.anyError ds = false ∧ m.className = "Main" ∧
      ∀ name ∈ typeItems m, name ∉ bareTypeNames := by
  obtain ⟨m, ds, hbuilt, hds, hname⟩ :
      ∃ m ds, build 10 (classOfGroups ["bool", "i32"]) = (some m, ds) ∧
        Diagnostic.anyError ds = false ∧ m.className = "Main" :=
    exists_of_outcome (by decide +kernel)
  obtain ⟨-, -, hiff⟩ := items_bare_iff hbuilt
  exact ⟨m, ds, hbuilt, hds, hname, hiff.mpr (hname ▸ by decide +kernel)⟩

/-- A class may be named `bool`; nothing is reported. -/
theorem items_bare_class_bool :
    ∃ m ds, build 10 { main := { name := "bool" } } = (some m, ds) ∧ ds = [] ∧
      "bool" ∈ typeItems m ∧ "bool" ∈ bareTypeNames :=
  exists_of_outcome (by decide +kernel)

end TypedPrefs.Blueprint
