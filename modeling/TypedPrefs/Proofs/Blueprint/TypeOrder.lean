import TypedPrefs.Blueprint.Class
import TypedPrefs.Proofs.Result
import TypedPrefs.Proofs.SortedMap
import TypedPrefs.Proofs.Types.Answers

/-!
# The order of types

The types of a declaration are added one after the other, and each is checked against those that
are there already. As long as no name comes twice, the only names that can be taken are built in.
So what a type adds, or why it adds nothing, does not depend on the types before it, and puts at
different names can change places. All that the order decides is the index at which a problem is
reported.
-/

namespace TypedPrefs

/-- A place, where types are told apart by their names only. -/
def Location.withoutTypeIndex : Location → Location
  | .type _ name => .type 0 name
  | l => l

/-- A diagnostic, where types are told apart by their names only. -/
def Diagnostic.withoutTypeIndex (d : Diagnostic) : Diagnostic :=
  { d with location := d.location.withoutTypeIndex }

namespace Universe

variable {u : Universe}

/-- Declarations of different names can come in any order. -/
theorem extend_perm (u : Universe) {ds ds' : List TypeDecl} (hperm : ds.Perm ds')
    (hdistinct : (ds.map TypeDecl.name).Nodup) : u.extend ds = u.extend ds' := by
  unfold extend
  congr 1
  refine hperm.foldl_eq' (fun d hd e he decls => ?_) _
  by_cases hname : d.name = e.name
  · rw [List.inj_on_of_nodup_map hdistinct hd he hname]
  · exact decls.put_comm hname d e

end Universe

namespace Blueprint

open Declaration

/-! ## What a type adds -/

/-- The declaration that a type adds to a universe, or why it adds none. -/
def addition (u : Universe) (s : TypeSection) : Except Message TypeDecl :=
  match typeDecl s with
  | .error failure => .error failure.message
  | .ok d => if u.contains d.name then .error (Universe.duplicateMessage d.name) else .ok d

/-- The declarations that types add to a universe, each of them by itself. -/
def additions (u : Universe) (types : List TypeSection) : List TypeDecl :=
  types.filterMap fun s => (addition u s).toOption

/-- Why types add nothing to a universe, each of them by itself. -/
def rejections (u : Universe) (types : List TypeSection) : List Diagnostic :=
  types.filterMap fun s =>
    match addition u s with
    | .error message => some (.error (.type 0 s.name) message)
    | .ok _ => none

/-- A type is declared under the name and with the kind that are written. -/
theorem name_and_kind_of_typeDecl {s : TypeSection} {d : TypeDecl} (h : typeDecl s = .ok d) :
    d.name = s.name ∧ d.kind = s.kind := by
  unfold typeDecl at h
  by_cases hname : isTypeName s.name = true
  · rw [hname] at h
    obtain ⟨params, -, h⟩ := bind_eq_ok_iff.mp h
    obtain ⟨supertypes, -, h⟩ := bind_eq_ok_iff.mp h
    split at h
    · obtain ⟨constructors, -, h⟩ := bind_eq_ok_iff.mp h
      cases h
      exact ⟨rfl, rfl⟩
    · cases h
      exact ⟨rfl, rfl⟩
  · rw [if_pos (by simpa using hname)] at h
    cases h

theorem name_of_typeDecl {s : TypeSection} {d : TypeDecl} (h : typeDecl s = .ok d) :
    d.name = s.name :=
  (name_and_kind_of_typeDecl h).1

theorem kind_of_typeDecl {s : TypeSection} {d : TypeDecl} (h : typeDecl s = .ok d) :
    d.kind = s.kind :=
  (name_and_kind_of_typeDecl h).2

theorem name_of_addition {u : Universe} {s : TypeSection} {d : TypeDecl}
    (h : addition u s = .ok d) : d.name = s.name := by
  unfold addition at h
  split at h
  · cases h
  · next e hd =>
    split at h
    · cases h
    · cases h
      exact name_of_typeDecl hd

/-- What a type adds depends on one name of the universe only, that of the type. -/
theorem addition_congr {u v : Universe} {s : TypeSection}
    (h : u.contains s.name = v.contains s.name) : addition u s = addition v s := by
  unfold addition
  cases hd : typeDecl s with
  | error failure => rfl
  | ok d =>
    dsimp only
    rw [name_of_typeDecl hd, h]

section Fresh

variable {u : Universe} {d : TypeDecl} {types : List TypeSection}

/-- The declaration of a name makes no difference to what types of other names add. -/
theorem addition_extend (hfresh : d.name ∉ types.map TypeSection.name) {s : TypeSection}
    (hs : s ∈ types) : addition (u.extend [d]) s = addition u s := by
  have hne : d.name ≠ s.name := fun heq => hfresh (List.mem_map.mpr ⟨s, hs, heq.symm⟩)
  have hget : (u.extend [d]).get? s.name = u.get? s.name :=
    (u.get?_put d s.name).trans (if_neg hne)
  exact addition_congr (congrArg Option.isSome hget)

theorem additions_extend (hfresh : d.name ∉ types.map TypeSection.name) :
    additions (u.extend [d]) types = additions u types :=
  List.filterMap_congr fun s hs => by rw [addition_extend hfresh hs]

theorem rejections_extend (hfresh : d.name ∉ types.map TypeSection.name) :
    rejections (u.extend [d]) types = rejections u types :=
  List.filterMap_congr fun s hs => by rw [addition_extend hfresh hs]

end Fresh

/-! ## What the loop adds -/

/-- One step of the loop adds what the type adds, or reports why it adds nothing. -/
theorem addTypes_cons (index : Nat) (s : TypeSection) (rest : List TypeSection) (u : Universe) :
    addTypes index (s :: rest) u =
      match addition u s with
      | .error message =>
        ((addTypes (index + 1) rest u).1,
          .error (.type index s.name) message :: (addTypes (index + 1) rest u).2)
      | .ok d => addTypes (index + 1) rest (u.extend [d]) := by
  conv_lhs => unfold addTypes
  unfold addition
  cases typeDecl s with
  | error failure => rfl
  | ok d =>
    by_cases htaken : u.contains d.name = true
    · simp only [Universe.declare?, htaken, if_true]
    · simp only [Universe.declare?, htaken]
      rfl

/-- With distinct names the loop adds what each type adds by itself, and reports the others. -/
theorem addTypes_eq (index : Nat) {types : List TypeSection} (u : Universe)
    (hdistinct : (types.map TypeSection.name).Nodup) :
    (addTypes index types u).1 = u.extend (additions u types) ∧
    (addTypes index types u).2.map Diagnostic.withoutTypeIndex = rejections u types := by
  induction types generalizing index u with
  | nil => exact ⟨rfl, rfl⟩
  | cons s rest ih =>
    obtain ⟨hfresh, hrest⟩ := List.nodup_cons.mp hdistinct
    cases hadd : addition u s with
    | error message =>
      obtain ⟨hadded, hreported⟩ := ih (index + 1) u hrest
      have hadditions : additions u (s :: rest) = additions u rest :=
        List.filterMap_cons_none (by rw [hadd]; rfl)
      have hrejections : rejections u (s :: rest) =
          .error (.type 0 s.name) message :: rejections u rest :=
        List.filterMap_cons_some (by rw [hadd])
      rw [addTypes_cons, hadd, hadditions, hrejections, ← hreported]
      exact ⟨hadded, rfl⟩
    | ok d =>
      obtain ⟨hadded, hreported⟩ := ih (index + 1) (u.extend [d]) hrest
      -- the types of the rest have other names, so they add what they added before
      have hother : d.name ∉ rest.map TypeSection.name := name_of_addition hadd ▸ hfresh
      have hadditions : additions u (s :: rest) = d :: additions u rest :=
        List.filterMap_cons_some (by rw [hadd]; rfl)
      have hrejections : rejections u (s :: rest) = rejections u rest :=
        List.filterMap_cons_none (by rw [hadd])
      rw [additions_extend hother] at hadded
      rw [rejections_extend hother] at hreported
      rw [addTypes_cons, hadd, hadditions, hrejections]
      exact ⟨hadded, hreported⟩

/-- Distinct types add declarations with distinct names. -/
theorem nodup_additions (u : Universe) {types : List TypeSection}
    (hdistinct : (types.map TypeSection.name).Nodup) :
    ((additions u types).map TypeDecl.name).Nodup := by
  refine List.pairwise_map.mpr ((List.pairwise_map.mp hdistinct).filterMap _ ?_)
  intro s s' hne d hd d' hd'
  have hname : ∀ {s d}, (addition u s).toOption = some d → d.name = s.name := by
    intro s d hd
    cases hadd : addition u s with
    | error message =>
      rw [hadd] at hd
      cases hd
    | ok e =>
      rw [hadd] at hd
      cases hd
      exact name_of_addition hadd
  rw [hname hd, hname hd']
  exact hne

/-! ## Where problems are located -/

theorem lastIndexOf?_eq_none_iff {name : String} {types : List TypeSection} :
    lastIndexOf? name types = none ↔ name ∉ types.map TypeSection.name := by
  unfold lastIndexOf?
  rw [Option.map_eq_none_iff, List.getLast?_eq_none_iff, List.filter_eq_nil_iff,
    List.forall_mem_zipIdx']
  constructor
  · intro h hmem
    obtain ⟨s, hs, rfl⟩ := List.mem_map.mp hmem
    obtain ⟨i, hi, rfl⟩ := List.getElem_of_mem hs
    exact h i hi (beq_self_eq_true _)
  · intro h i hi heq
    exact h (List.mem_map.mpr ⟨types[i], List.getElem_mem hi, eq_of_beq heq⟩)

/-- Up to the index, a problem is located by the names of the types. -/
theorem withoutTypeIndex_problemLocation (types : List TypeSection) (p : Universe.Problem) :
    (problemLocation types p).withoutTypeIndex =
      if p.name ∈ types.map TypeSection.name then .type 0 p.name else .source := by
  unfold problemLocation
  cases h : lastIndexOf? p.name types with
  | none =>
    rw [if_neg (lastIndexOf?_eq_none_iff.mp h)]
    rfl
  | some index =>
    have hmem : p.name ∈ types.map TypeSection.name := by
      by_contra hnone
      rw [lastIndexOf?_eq_none_iff.mpr hnone] at h
      cases h
    rw [if_pos hmem]
    rfl

/-! ## Any order -/

/-- Types with distinct names make the same universe in any order, with the same reports up to the
indices. -/
theorem universeOf_perm {types types' : List TypeSection} (hperm : types.Perm types')
    (hdistinct : (types.map TypeSection.name).Nodup) :
    (universeOf types).1 = (universeOf types').1 ∧
    ((universeOf types).2.map Diagnostic.withoutTypeIndex).Perm
      ((universeOf types').2.map Diagnostic.withoutTypeIndex) := by
  have hdistinct' : (types'.map TypeSection.name).Nodup := (hperm.map _).nodup_iff.mp hdistinct
  obtain ⟨hadded, hreported⟩ := addTypes_eq 0 Universe.builtin hdistinct
  obtain ⟨hadded', hreported'⟩ := addTypes_eq 0 Universe.builtin hdistinct'
  have hu : (addTypes 0 types Universe.builtin).1 = (addTypes 0 types' Universe.builtin).1 :=
    calc (addTypes 0 types Universe.builtin).1
      _ = Universe.builtin.extend (additions Universe.builtin types) := hadded
      _ = Universe.builtin.extend (additions Universe.builtin types') :=
        Universe.extend_perm _ (hperm.filterMap _) (nodup_additions _ hdistinct)
      _ = (addTypes 0 types' Universe.builtin).1 := hadded'.symm
  refine ⟨hu, ?_⟩
  simp only [universeOf, List.map_append, List.map_map, hreported, hreported', hu]
  refine (hperm.filterMap _).append (List.Perm.of_eq (List.map_congr_left fun p _ => ?_))
  have hlocation : (problemLocation types p).withoutTypeIndex =
      (problemLocation types' p).withoutTypeIndex := by
    rw [withoutTypeIndex_problemLocation, withoutTypeIndex_problemLocation]
    simp only [(hperm.map TypeSection.name).mem_iff]
  simp only [Function.comp_apply, Diagnostic.withoutTypeIndex, Diagnostic.error, hlocation]

/-- **The order of types does not matter.** If the names of the types are distinct, every order of
them gives the same class, or none, and the same diagnostics as often, up to the indices of types
in their places. -/
theorem build_ignores_type_order (depth : Nat) (d : Declaration) {types : List TypeSection}
    (hperm : types.Perm d.types) (hdistinct : (d.types.map TypeSection.name).Nodup) :
    (build depth { d with types }).1 = (build depth d).1 ∧
    ((build depth { d with types }).2.map Diagnostic.withoutTypeIndex).Perm
      ((build depth d).2.map Diagnostic.withoutTypeIndex) := by
  obtain ⟨hu, hreports⟩ := universeOf_perm hperm.symm hdistinct
  simp only [build, ← hu]
  cases className? d.main.name with
  | none =>
    refine ⟨rfl, ?_⟩
    simp only [List.map_append]
    exact (hreports.symm.append_left _).append_right _
  | some found =>
    refine ⟨rfl, ?_⟩
    simp only [List.map_append]
    exact ((hreports.symm.append_left _).append_right _).append_right _

/-- Types of which one refers to a later one, two extend each other, one extends nothing that there
is, one takes a built-in name, and one has no name that can be read. -/
def tangled : Declaration where
  main := { name := "demo.Settings" }
  types :=
    [{ name := "Left", supertypes := ["Right"] },
      { name := "Right", supertypes := ["Left", "Missing"] },
      { name := "String" },
      { name := "two words" }]

theorem build_ignores_type_order_tangled :
    tangled.types.reverse.Perm tangled.types ∧
    (tangled.types.map TypeSection.name).Nodup ∧
    (build 1 tangled).2.length = 5 ∧
    (build 1 { tangled with types := tangled.types.reverse }).1 = (build 1 tangled).1 ∧
    ((build 1 { tangled with types := tangled.types.reverse }).2.map
        Diagnostic.withoutTypeIndex).Perm
      ((build 1 tangled).2.map Diagnostic.withoutTypeIndex) :=
  have hperm : tangled.types.reverse.Perm tangled.types := List.reverse_perm _
  have hdistinct : (tangled.types.map TypeSection.name).Nodup := by decide +kernel
  ⟨hperm, hdistinct, by decide +kernel, build_ignores_type_order 1 tangled hperm hdistinct⟩

end Blueprint

end TypedPrefs
