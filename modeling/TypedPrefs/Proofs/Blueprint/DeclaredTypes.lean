import TypedPrefs.Blueprint.Preference
import TypedPrefs.Proofs.Blueprint.TypeOrder
import TypedPrefs.Proofs.Code.Identifiers
import TypedPrefs.Proofs.Types.Fitting

/-!
# The types that are declared

The universe of a declaration has the built-in types and each type that can be read, under its name
as it is written. References are read before they are looked up, and then a name has no blanks,
comments, parentheses or empty lists of arguments in it any more. So a type can be referred to by
its own text exactly if the name that the text spells is declared, be it by this text or by another.
-/

namespace TypedPrefs.Blueprint

open Declaration Naming

variable {u : Universe} {types : List TypeSection} {s : TypeSection} {name : String}

/-! ## What is added -/

theorem addition_eq_ok_iff {d : TypeDecl} :
    addition u s = .ok d ↔ typeDecl s = .ok d ∧ u.contains d.name = false := by
  unfold addition
  cases typeDecl s with
  | error failure => exact iff_of_false nofun (fun h => nomatch h.1)
  | ok e =>
    dsimp only
    constructor
    · intro h
      split at h
      · cases h
      · next hfree =>
        cases h
        exact ⟨rfl, by simpa using hfree⟩
    · rintro ⟨heq, hfree⟩
      cases heq
      rw [hfree, if_neg Bool.false_ne_true]

theorem contains_extend (u : Universe) (d : TypeDecl) :
    (u.extend [d]).contains name = true ↔ d.name = name ∨ u.contains name = true := by
  have hget : (u.extend [d]).get? name = if d.name = name then some d else u.get? name :=
    u.get?_put d name
  change ((u.extend [d]).get? name).isSome = true ↔ d.name = name ∨ (u.get? name).isSome = true
  rw [hget]
  split <;> simp_all

/-- A universe after a type that is added, or that adds nothing. -/
def withEntry (u : Universe) (s : TypeSection) : Universe :=
  match addition u s with
  | .error _ => u
  | .ok d => u.extend [d]

theorem addTypes_cons_fst (index : Nat) (s : TypeSection) (rest : List TypeSection)
    (u : Universe) :
    (addTypes index (s :: rest) u).1 = (addTypes (index + 1) rest (withEntry u s)).1 := by
  rw [addTypes_cons]
  unfold withEntry
  cases addition u s <;> rfl

theorem contains_withEntry_iff : (withEntry u s).contains name = true ↔
    u.contains name = true ∨ s.name = name ∧ ∃ d, typeDecl s = .ok d := by
  unfold withEntry
  cases hadd : addition u s with
  | error message =>
    -- the type cannot be read, or its name was there before
    refine (or_iff_left_of_imp ?_).symm
    rintro ⟨rfl, d, hd⟩
    by_contra htaken
    have hfree : u.contains d.name = false := by
      rw [name_of_typeDecl hd]
      exact Bool.eq_false_iff.mpr htaken
    have hok := addition_eq_ok_iff.mpr ⟨hd, hfree⟩
    rw [hadd] at hok
    cases hok
  | ok d =>
    obtain ⟨hd, -⟩ := addition_eq_ok_iff.mp hadd
    have hsame : (s.name = name ∧ ∃ d, typeDecl s = .ok d) ↔ d.name = name := by
      rw [name_of_typeDecl hd]
      exact and_iff_left ⟨d, hd⟩
    rw [contains_extend, hsame, or_comm]

theorem isMade_withEntry (hmade : u.IsMade) (s : TypeSection) : (withEntry u s).IsMade := by
  unfold withEntry
  cases hadd : addition u s with
  | error message => exact hmade
  | ok d =>
    exact hmade.declare d (Universe.declare?_eq_some_iff.mpr ⟨(addition_eq_ok_iff.mp hadd).2, rfl⟩)

/-- Every type that is added is declared under a name that was not taken. -/
theorem isMade_addTypes (hmade : u.IsMade) (index : Nat) (types : List TypeSection) :
    (addTypes index types u).1.IsMade := by
  induction types generalizing index u with
  | nil => exact hmade
  | cons s rest ih =>
    rw [addTypes_cons_fst]
    exact ih (isMade_withEntry hmade s) (index + 1)

theorem isMade_universeOf (types : List TypeSection) : (universeOf types).1.IsMade :=
  isMade_addTypes .builtin 0 types

/-- A name is added if one of the types that can be read has it. -/
theorem contains_addTypes_iff (index : Nat) (types : List TypeSection) (u : Universe) :
    (addTypes index types u).1.contains name = true ↔
      u.contains name = true ∨ ∃ s ∈ types, s.name = name ∧ ∃ d, typeDecl s = .ok d := by
  induction types generalizing index u with
  | nil =>
    have hnone : ¬ ∃ s ∈ ([] : List TypeSection), s.name = name ∧ ∃ d, typeDecl s = .ok d := nofun
    exact (or_iff_left hnone).symm
  | cons s rest ih =>
    have hsplit : (∃ s' ∈ s :: rest, s'.name = name ∧ ∃ d, typeDecl s' = .ok d) ↔
        (s.name = name ∧ ∃ d, typeDecl s = .ok d) ∨
          ∃ s' ∈ rest, s'.name = name ∧ ∃ d, typeDecl s' = .ok d := by simp
    rw [addTypes_cons_fst, ih, contains_withEntry_iff, or_assoc, hsplit]

/-- A name is declared: it is built in, or a type that can be read has it. -/
def IsDeclared (types : List TypeSection) (name : String) : Prop :=
  Universe.builtin.contains name = true ∨ ∃ s ∈ types, s.name = name ∧ ∃ d, typeDecl s = .ok d

theorem contains_universeOf_iff :
    (universeOf types).1.contains name = true ↔ IsDeclared types name :=
  contains_addTypes_iff 0 types .builtin

/-! ## References by the text of a declaration -/

/-- A type that is added can be read as a reference without arguments. -/
theorem exists_parse_of_typeDecl {d : TypeDecl} (h : typeDecl s = .ok d) :
    ∃ n, TypeRef.parse s.name = .ok (.named n) := by
  have hname : isTypeName s.name = true := by
    by_contra hillegal
    have hthrown : (!isTypeName s.name) = true := by
      rw [Bool.eq_false_iff.mpr hillegal, Bool.not_false]
    unfold typeDecl at h
    rw [if_pos hthrown] at h
    cases h
  rw [isTypeName] at hname
  split at hname
  · next n hparse => exact ⟨n, hparse⟩
  · cases hname

/-- A type that cannot be read is reported at its place. -/
theorem typeDecl_or_reported (index : Nat) (u : Universe) {i : Nat} (hi : types[i]? = some s) :
    (∃ d, typeDecl s = .ok d) ∨
      ∃ e ∈ (addTypes index types u).2, e.location = .type (index + i) s.name := by
  induction types generalizing index u i with
  | nil => cases hi
  | cons head rest ih =>
    rw [addTypes_cons]
    cases i with
    | zero =>
      obtain rfl : head = s := Option.some.inj hi
      cases hd : typeDecl head with
      | ok d => exact .inl ⟨d, rfl⟩
      | error failure =>
        have hadd : addition u head = .error failure.message := by
          unfold addition
          rw [hd]
        rw [hadd]
        exact .inr ⟨_, List.mem_cons_self, rfl⟩
    | succ i =>
      rw [Nat.add_comm i 1, ← Nat.add_assoc]
      cases addition u head with
      | ok d => exact ih (index + 1) (u.extend [d]) hi
      | error message =>
        refine (ih (index + 1) u hi).imp_right ?_
        rintro ⟨e, he, hlocation⟩
        exact ⟨e, List.mem_cons_of_mem _ he, hlocation⟩

/-- **When a type can be referred to by its own text.** A type about which nothing is reported is
declared under its text, and the text spells a name. A reference by the text is right if that name
is declared, and otherwise the name is unknown. The name is declared if it is the text itself, as
it is where the text is an identifier that is no reserved word. -/
theorem own_text_refers_iff {i : Nat} (hi : types[i]? = some s)
    (hsilent : ∀ e ∈ (universeOf types).2, e.location ≠ .type i s.name) :
    (universeOf types).1.contains s.name = true ∧
    ∃ n, TypeRef.parse s.name = .ok (.named n) ∧
      (IsDeclared types n →
        (universeOf types).1.misfit? (.named n) = none ∧
        parseType (universeOf types).1 s.name = .ok (.named n)) ∧
      (¬ IsDeclared types n →
        (universeOf types).1.misfit? (.named n) = some (.unknown n) ∧
        parseType (universeOf types).1 s.name = .error (.misfit (.unknown n))) ∧
      (n = s.name → IsDeclared types n) ∧ (isUsable s.name = true → n = s.name) := by
  obtain ⟨d, hd⟩ : ∃ d, typeDecl s = .ok d := by
    refine (typeDecl_or_reported 0 .builtin hi).resolve_right ?_
    rintro ⟨e, he, hlocation⟩
    exact hsilent e (List.mem_append_left _ he) (by simpa using hlocation)
  have hown : IsDeclared types s.name := .inr ⟨s, List.mem_of_getElem? hi, rfl, d, hd⟩
  obtain ⟨n, hn⟩ := exists_parse_of_typeDecl hd
  refine ⟨contains_universeOf_iff.mpr hown, n, hn, fun hdeclared => ?_, fun hunknown => ?_,
    fun heq => heq ▸ hown, fun husable => TypeRef.eq_of_parse_of_isUsable husable hn⟩
  · obtain ⟨e, he⟩ := Option.isSome_iff_exists.mp (contains_universeOf_iff.mpr hdeclared)
    have hfits : (universeOf types).1.misfit? (.named n) = none :=
      Universe.misfit?_eq_none_iff.mpr (Universe.fits_named he)
    refine ⟨hfits, ?_⟩
    rw [parseType, hn]
    simp only [hfits]
  · have hnone : (universeOf types).1.get? n = none := by
      rw [← Universe.contains_eq_false_iff]
      exact Bool.eq_false_iff.mpr fun hcontains => hunknown (contains_universeOf_iff.mp hcontains)
    have hmisfit : (universeOf types).1.misfit? (.named n) = some (.unknown n) := by
      rw [TypeRef.named, Universe.misfit?, hnone]
    refine ⟨hmisfit, ?_⟩
    rw [parseType, hn]
    simp only [hmisfit]

/-- An enum of which a reference by its own text is right. -/
theorem own_text_refers_theme :
    let types : List TypeSection := [{ name := "Theme", kind := .enum }]
    (∀ e ∈ (universeOf types).2, e.location ≠ .type 0 "Theme") ∧
    parseType (universeOf types).1 "Theme" = .ok (.named "Theme") := by
  intro types
  have hsilent : ∀ e ∈ (universeOf types).2, e.location ≠ .type 0 "Theme" := by decide +kernel
  have hentry : types[0]? = some { name := "Theme", kind := .enum } := rfl
  obtain ⟨-, n, -, hright, -, hdeclared, hsame⟩ := own_text_refers_iff hentry hsilent
  obtain rfl : n = "Theme" := hsame (by decide +kernel)
  exact ⟨hsilent, (hright (hdeclared rfl)).2⟩

/-- A class whose text spells its name with blanks: nothing is reported about it, and a reference by
the same text finds no type. -/
theorem own_text_unknown_path :
    let types : List TypeSection := [{ name := "a :: B" }]
    (universeOf types).2 = [] ∧ (universeOf types).1.contains "a :: B" = true ∧
      TypeRef.parse "a :: B" = .ok (.named "a::B") ∧
      (universeOf types).1.contains "a::B" = false ∧
      (universeOf types).1.misfit? (.named "a::B") = some (.unknown "a::B") := by
  decide +kernel

end TypedPrefs.Blueprint
