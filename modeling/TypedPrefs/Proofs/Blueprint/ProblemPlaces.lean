import TypedPrefs.Proofs.Blueprint.DeclaredTypes
import TypedPrefs.Proofs.Types.Problems

/-!
# Where problems are reported

An entry contributes its declaration if no entry before it has contributed one of that name. What is
wrong with the declaration is found in the finished universe, where it has a name but no index, and
then the index is looked up by the name. The look-up finds the last entry of that name. So a problem
is reported at the entry that it is found in only if no later entry has the same name; such an entry
is itself reported, as one that cannot be read or as a duplicate.
-/

namespace TypedPrefs.Blueprint

open Declaration

variable {u : Universe} {types : List TypeSection} {s : TypeSection} {d : TypeDecl}
variable {name : String} {i j : Nat}

/-! ## The entries that contribute -/

/-- An entry contributes a declaration to a universe: it is the first one of its name that can be
read, and its name was not taken. -/
structure Contributes (u : Universe) (types : List TypeSection) (i : Nat) (d : TypeDecl) :
    Prop where
  entry : ∃ s, types[i]? = some s ∧ typeDecl s = .ok d
  free : u.contains d.name = false
  first : ∀ k s, k < i → types[k]? = some s → s.name = d.name → ∀ e, typeDecl s ≠ .ok e

/-- The entries that contribute the declaration of a name are one. -/
theorem Contributes.unique {i' : Nat} {d' : TypeDecl} (h : Contributes u types i d)
    (h' : Contributes u types i' d') (hname : d'.name = d.name) : i' = i ∧ d' = d := by
  obtain ⟨s, hs, hd⟩ := h.entry
  obtain ⟨s', hs', hd'⟩ := h'.entry
  have hsname : s.name = d'.name := (name_of_typeDecl hd).symm.trans hname.symm
  have hsname' : s'.name = d.name := (name_of_typeDecl hd').symm.trans hname
  have hle : ¬ i < i' := fun hlt => h'.first i s hlt hs hsname d hd
  have hge : ¬ i' < i := fun hlt => h.first i' s' hlt hs' hsname' d' hd'
  obtain rfl : i' = i := by omega
  obtain rfl : s = s' := Option.some.inj (hs.symm.trans hs')
  exact ⟨rfl, Except.ok.inj (hd'.symm.trans hd)⟩

theorem get?_withEntry : (withEntry u s).get? name = some d ↔
    u.get? name = some d ∨ addition u s = .ok d ∧ d.name = name := by
  unfold withEntry
  cases hadd : addition u s with
  | error message => simp
  | ok e =>
    have hfree := Universe.contains_eq_false_iff.mp (addition_eq_ok_iff.mp hadd).2
    have hget : (u.extend [e]).get? name = if e.name = name then some e else u.get? name :=
      u.get?_put e name
    dsimp only
    rw [hget]
    by_cases hname : e.name = name
    · subst hname
      simp only [if_pos, hfree, Option.some.injEq, Except.ok.injEq]
      constructor
      · rintro rfl
        exact .inr ⟨rfl, rfl⟩
      · rintro (h | ⟨h, -⟩)
        · cases h
        · exact h
    · rw [if_neg hname]
      refine (or_iff_left ?_).symm
      rintro ⟨heq, hd⟩
      cases heq
      exact hname hd

/-- After an entry a name is free if it was free and the entry does not declare it. -/
theorem contains_withEntry_eq_false_iff : (withEntry u s).contains name = false ↔
    u.contains name = false ∧ (s.name = name → ∀ e, typeDecl s ≠ .ok e) := by
  rw [← Bool.not_eq_true, ← Bool.not_eq_true, contains_withEntry_iff, not_or, not_and, not_exists]

theorem contributes_cons_zero_iff {rest : List TypeSection} :
    Contributes u (s :: rest) 0 d ↔ addition u s = .ok d := by
  rw [addition_eq_ok_iff]
  constructor
  · rintro ⟨⟨_, hs, hd⟩, hfree, -⟩
    cases hs
    exact ⟨hd, hfree⟩
  · rintro ⟨hd, hfree⟩
    exact ⟨⟨s, rfl, hd⟩, hfree, nofun⟩

theorem contributes_cons_succ_iff {rest : List TypeSection} :
    Contributes u (s :: rest) (i + 1) d ↔ Contributes (withEntry u s) rest i d := by
  constructor
  · rintro ⟨hentry, hfree, hfirst⟩
    refine ⟨hentry, contains_withEntry_eq_false_iff.mpr ⟨hfree, ?_⟩, fun k s' hk hs' => ?_⟩
    · exact hfirst 0 s (Nat.succ_pos i) rfl
    · exact hfirst (k + 1) s' (Nat.succ_lt_succ hk) hs'
  · rintro ⟨hentry, hfree, hfirst⟩
    obtain ⟨hfree, hunread⟩ := contains_withEntry_eq_false_iff.mp hfree
    refine ⟨hentry, hfree, fun k s' hk hs' => ?_⟩
    cases k with
    | zero =>
      cases hs'
      exact hunread
    | succ k => exact hfirst k s' (Nat.lt_of_succ_lt_succ hk) hs'

/-! ## What the loop adds and reports -/

/-- The declarations that are there in the end: those from the start and those contributed. -/
theorem get?_addTypes (index : Nat) (types : List TypeSection) (u : Universe) :
    (addTypes index types u).1.get? name = some d ↔
      u.get? name = some d ∨ ∃ i, Contributes u types i d ∧ d.name = name := by
  induction types generalizing index u with
  | nil =>
    refine (or_iff_left ?_).symm
    rintro ⟨i, ⟨⟨s, hs, -⟩, -, -⟩, -⟩
    cases hs
  | cons s rest ih =>
    have hsplit : (∃ i, Contributes u (s :: rest) i d ∧ d.name = name) ↔
        (addition u s = .ok d ∧ d.name = name) ∨
          ∃ i, Contributes (withEntry u s) rest i d ∧ d.name = name := by
      rw [← Nat.or_exists_add_one, contributes_cons_zero_iff]
      simp only [contributes_cons_succ_iff]
    rw [addTypes_cons_fst, ih, get?_withEntry, or_assoc, hsplit]

/-- If the loop reports nothing, every entry contributes its declaration. -/
theorem contributes_of_silent {index i : Nat} (hsilent : (addTypes index types u).2 = [])
    (hs : types[i]? = some s) : ∃ d, typeDecl s = .ok d ∧ Contributes u types i d := by
  induction types generalizing index u i with
  | nil => cases hs
  | cons head rest ih =>
    rw [addTypes_cons] at hsilent
    cases hadd : addition u head with
    | error message =>
      rw [hadd] at hsilent
      cases hsilent
    | ok e =>
      rw [hadd] at hsilent
      cases i with
      | zero =>
        obtain rfl : head = s := Option.some.inj hs
        exact ⟨e, (addition_eq_ok_iff.mp hadd).1, contributes_cons_zero_iff.mpr hadd⟩
      | succ i =>
        have hentry : withEntry u head = u.extend [e] := by rw [withEntry, hadd]
        obtain ⟨d, hd, hcontributes⟩ := ih hsilent hs
        exact ⟨d, hd, contributes_cons_succ_iff.mpr (hentry ▸ hcontributes)⟩

/-- What the loop reports is about entries that contribute nothing. -/
theorem of_mem_reports (index : Nat) (types : List TypeSection) (u : Universe) {e : Diagnostic}
    (he : e ∈ (addTypes index types u).2) :
    ∃ i s, types[i]? = some s ∧ e.location = .type (index + i) s.name ∧
      ∀ d, ¬ Contributes u types i d := by
  induction types generalizing index u with
  | nil => cases he
  | cons s rest ih =>
    have hlater : e ∈ (addTypes (index + 1) rest (withEntry u s)).2 →
        ∃ i s', (s :: rest)[i]? = some s' ∧ e.location = .type (index + i) s'.name ∧
          ∀ d, ¬ Contributes u (s :: rest) i d := by
      intro hrest
      obtain ⟨i, s', hs', hlocation, hnone⟩ := ih (index + 1) _ hrest
      refine ⟨i + 1, s', hs', ?_, fun d hd => hnone d (contributes_cons_succ_iff.mp hd)⟩
      rw [hlocation, Nat.add_assoc, Nat.add_comm 1 i]
    rw [addTypes_cons] at he
    unfold withEntry at hlater
    cases hadd : addition u s with
    | error message =>
      rw [hadd] at he hlater
      rcases List.mem_cons.mp he with rfl | he
      · refine ⟨0, s, rfl, rfl, fun d hd => ?_⟩
        rw [contributes_cons_zero_iff, hadd] at hd
        cases hd
      · exact hlater he
    | ok d =>
      rw [hadd] at he hlater
      exact hlater he

/-! ## The index of a name -/

/-- An entry is the last one of a name. -/
structure IsLastEntry (types : List TypeSection) (j : Nat) (name : String) : Prop where
  entry : ∃ s, types[j]? = some s ∧ s.name = name
  last : ∀ k s, j < k → types[k]? = some s → s.name ≠ name

theorem IsLastEntry.unique {k : Nat} (h : IsLastEntry types j name)
    (h' : IsLastEntry types k name) : j = k := by
  obtain ⟨s, hs, hname⟩ := h.entry
  obtain ⟨s', hs', hname'⟩ := h'.entry
  have hle : ¬ j < k := fun hlt => h.last k s' hlt hs' hname'
  have hge : ¬ k < j := fun hlt => h'.last j s hlt hs hname
  omega

theorem isLastEntry_of_lastIndexOf? (h : lastIndexOf? name types = some j) :
    IsLastEntry types j name := by
  obtain ⟨⟨s, k⟩, hlast, hk⟩ := Option.map_eq_some_iff.mp h
  obtain rfl : k = j := hk
  obtain ⟨before, hsplit⟩ := List.getLast?_eq_some_iff.mp hlast
  have hmem : ∀ s' i, (s', i) ∈ before ++ [(s, k)] ↔ types[i]? = some s' ∧ s'.name = name := by
    intro s' i
    rw [← hsplit, List.mem_filter, List.mk_mem_zipIdx_iff_getElem?, beq_iff_eq]
  -- the entries of the name come in increasing order of their indices
  have hsorted : (before ++ [(s, k)]).Pairwise fun x y => x.2 < y.2 := by
    have hindices : (types.zipIdx.map Prod.snd).Pairwise (· < ·) := by
      rw [List.zipIdx_map_snd]
      exact List.pairwise_lt_range'
    rw [← hsplit]
    exact (List.pairwise_map.mp hindices).filter _
  obtain ⟨-, -, hbefore⟩ := List.pairwise_append.mp hsorted
  refine ⟨⟨s, (hmem s k).mp List.mem_concat_self⟩, fun i s' hlt hs' hname => ?_⟩
  rcases List.mem_append.mp ((hmem s' i).mpr ⟨hs', hname⟩) with hi | hi
  · have hik : i < k := hbefore _ hi _ List.mem_cons_self
    omega
  · cases List.mem_singleton.mp hi
    exact Nat.lt_irrefl k hlt

/-- The index that is found for a name is that of its last entry. -/
theorem lastIndexOf?_eq_some_iff :
    lastIndexOf? name types = some j ↔ IsLastEntry types j name := by
  refine ⟨isLastEntry_of_lastIndexOf?, fun h => ?_⟩
  cases hindex : lastIndexOf? name types with
  | none =>
    obtain ⟨s, hs, hname⟩ := h.entry
    exact absurd (List.mem_map.mpr ⟨s, List.mem_of_getElem? hs, hname⟩)
      (lastIndexOf?_eq_none_iff.mp hindex)
  | some k => rw [(isLastEntry_of_lastIndexOf? hindex).unique h]

theorem exists_isLastEntry (hs : types[i]? = some s) :
    ∃ j, i ≤ j ∧ IsLastEntry types j s.name := by
  cases hindex : lastIndexOf? s.name types with
  | none =>
    exact absurd (List.mem_map.mpr ⟨s, List.mem_of_getElem? hs, rfl⟩)
      (lastIndexOf?_eq_none_iff.mp hindex)
  | some j =>
    have hlast := lastIndexOf?_eq_some_iff.mp hindex
    refine ⟨j, ?_, hlast⟩
    by_contra hlt
    exact hlast.last i s (by omega) hs rfl

/-! ## The reports of problems -/

/-- A problem is reported at the last entry of its name. -/
theorem problem_reported {p : Universe.Problem} (hp : p ∈ (universeOf types).1.problems)
    (hlast : IsLastEntry types j p.name) :
    .error (.type j p.name) p.message ∈ (universeOf types).2 := by
  refine List.mem_append_right _ (List.mem_map.mpr ⟨p, hp, ?_⟩)
  rw [problemLocation, lastIndexOf?_eq_some_iff.mpr hlast]

/-- What is reported at an entry that contributes is a problem, and the entry is the last one of its
name. -/
theorem Contributes.isLastEntry_of_reported {e : Diagnostic} (hi : Contributes .builtin types i d)
    (he : e ∈ (universeOf types).2) (hlocation : e.location = .type i name) :
    IsLastEntry types i name := by
  rcases List.mem_append.mp he with hentry | hproblem
  · obtain ⟨k, s, -, hk, hnone⟩ := of_mem_reports 0 types .builtin hentry
    rw [hlocation, Nat.zero_add] at hk
    obtain ⟨rfl, -⟩ := Location.type.inj hk
    exact absurd hi (hnone d)
  · obtain ⟨p, -, rfl⟩ := List.mem_map.mp hproblem
    change problemLocation types p = .type i name at hlocation
    unfold problemLocation at hlocation
    cases hindex : lastIndexOf? p.name types with
    | none =>
      rw [hindex] at hlocation
      cases hlocation
    | some k =>
      rw [hindex] at hlocation
      obtain ⟨rfl, rfl⟩ := Location.type.inj hlocation
      exact lastIndexOf?_eq_some_iff.mp hindex

/-- **Where problems are reported.** Every problem between the types of a declaration is found in
what one entry contributes, the only one that contributes a declaration of that name. It is reported
at the last entry of the name, and at the entry where it is found exactly if that is the last. -/
theorem problem_places {p : Universe.Problem} (hp : p ∈ (universeOf types).1.problems) :
    ∃ i d j, Contributes .builtin types i d ∧ (universeOf types).1.FoundIn p d ∧
      (∀ i' d', Contributes .builtin types i' d' → d'.name = p.name → i' = i ∧ d' = d) ∧
      i ≤ j ∧ IsLastEntry types j p.name ∧
      .error (.type j p.name) p.message ∈ (universeOf types).2 ∧
      (.error (.type i p.name) p.message ∈ (universeOf types).2 ↔ i = j) := by
  have hmade := isMade_universeOf types
  obtain ⟨d, hd, hfound⟩ := (Universe.mem_problems_iff hmade).mp hp
  -- the declaration is not built in, so an entry contributes it
  obtain ⟨i, hi, -⟩ : ∃ i, Contributes .builtin types i d ∧ d.name = d.name := by
    refine ((get?_addTypes 0 types .builtin).mp hd).resolve_left fun hbuiltin => ?_
    have hfree := hmade.not_builtin_of_mem_problems hp
    rw [hfound.1, Universe.contains_eq_false_iff, hbuiltin] at hfree
    cases hfree
  obtain ⟨s, hs, hread⟩ := hi.entry
  have hname : s.name = p.name := (name_of_typeDecl hread).symm.trans hfound.1.symm
  obtain ⟨j, hij, hlast⟩ := exists_isLastEntry hs
  rw [hname] at hlast
  have hreported := problem_reported hp hlast
  refine ⟨i, d, j, hi, hfound, fun i' d' h' hname' => ?_, hij, hlast, hreported, fun h => ?_, ?_⟩
  · exact hi.unique h' (hname'.trans hfound.1)
  · exact (hi.isLastEntry_of_reported h rfl).unique hlast
  · intro heq
    exact heq ▸ hreported

/-- A supertype that is not declared is reported at the entry that extends it. The entry before it
has the same name and cannot be read. -/
theorem problem_places_missing :
    let types : List TypeSection :=
      [{ name := "A", supertypes := ["Set<"] }, { name := "A", supertypes := ["Missing"] }]
    let p : Universe.Problem := ⟨"A", .misfit (.unknown "Missing")⟩
    p ∈ (universeOf types).1.problems ∧
      Contributes .builtin types 1 (Universe.subclass "A" [.named "Missing"]) ∧
      .error (.type 1 "A") p.message ∈ (universeOf types).2 := by
  intro types p
  have hp : p ∈ (universeOf types).1.problems := by decide +kernel
  have hsecond : Contributes .builtin types 1 (Universe.subclass "A" [.named "Missing"]) := by
    apply contributes_cons_succ_iff.mpr
    apply contributes_cons_zero_iff.mpr
    decide +kernel
  have hlast : IsLastEntry types 1 "A" := by
    apply lastIndexOf?_eq_some_iff.mp
    decide +kernel
  obtain ⟨i, d, j, -, -, hunique, -, hj, -, hplace⟩ := problem_places hp
  obtain ⟨rfl, rfl⟩ := hunique 1 _ hsecond rfl
  exact ⟨hp, hsecond, hplace.mpr (hlast.unique hj)⟩

/-- With a duplicate behind the entry, what is wrong with it is reported at the duplicate, which
contributes nothing. -/
theorem problem_places_duplicate :
    let types : List TypeSection :=
      [{ name := "A", supertypes := ["Missing"] }, { name := "A" }]
    let p : Universe.Problem := ⟨"A", .misfit (.unknown "Missing")⟩
    let d : TypeDecl := Universe.subclass "A" [.named "Missing"]
    p ∈ (universeOf types).1.problems ∧ Contributes .builtin types 0 d ∧
      (universeOf types).1.FoundIn p d ∧
      (universeOf types).2 =
        [.error (.type 1 "A") "Duplicate type declaration: A", .error (.type 1 "A") p.message] ∧
      ∀ e ∈ (universeOf types).2, e.location ≠ .type 0 "A" := by
  intro types p d
  have hfirst : Contributes .builtin types 0 d := by
    apply contributes_cons_zero_iff.mpr
    decide +kernel
  have hfound : (universeOf types).1.FoundIn p d := by
    refine ⟨rfl, .inl ⟨.named "Missing", List.mem_cons_self, .unknown "Missing", ?_, rfl⟩⟩
    decide +kernel
  obtain ⟨hp, hreports, hnone⟩ : p ∈ (universeOf types).1.problems ∧
      (universeOf types).2 =
        [.error (.type 1 "A") "Duplicate type declaration: A", .error (.type 1 "A") p.message] ∧
      ∀ e ∈ (universeOf types).2, e.location ≠ .type 0 "A" := by
    decide +kernel
  exact ⟨hp, hfirst, hfound, hreports, hnone⟩

end TypedPrefs.Blueprint
