import TypedPrefs.Proofs.SortedMap
import TypedPrefs.Proofs.Types.Declaring
import TypedPrefs.Proofs.Types.NameCycles

/-!
# The problems of a universe

A problem is found in a declaration: one of the types that it refers to does not fit, or its name
leads back to itself. What is found in a declaration of a universe without misfits is found there
before anything else is declared. So there is never a problem in a built-in type.
-/

namespace TypedPrefs.Universe

open Relation

variable {u u' : Universe} {d : TypeDecl} {p : Problem}

/-! ## Where problems are found -/

/-- A problem is found in a declaration: a type that it refers to does not fit, or its name leads
back to itself. -/
def FoundIn (u : Universe) (p : Problem) (d : TypeDecl) : Prop :=
  p.name = d.name ∧
    ((∃ t ∈ d.references, ∃ m, u.misfit? t = some m ∧ p.cause = .misfit m) ∨
      (p.cause = .cycle ∧ TransGen u.NameExtends d.name d.name))

theorem mem_values_iff (hmade : u.IsMade) : d ∈ u.decls.values ↔ u.get? d.name = some d := by
  unfold SortedMap.values
  rw [List.mem_map]
  constructor
  · rintro ⟨⟨name, e⟩, he, rfl⟩
    have hget : u.get? name = some e := SortedMap.mem_entries_iff.mp he
    rwa [hmade.name_eq hget]
  · intro h
    exact ⟨(d.name, d), SortedMap.mem_entries_iff.mpr h, rfl⟩

/-- The problems of a universe are those found in its declarations. -/
theorem mem_problems_iff (hmade : u.IsMade) :
    p ∈ u.problems ↔ ∃ d, u.get? d.name = some d ∧ u.FoundIn p d := by
  rw [problems_eq, List.mem_append]
  constructor
  · rintro (hmisfits | hcycle)
    · obtain ⟨d, hd, hp⟩ := List.mem_flatMap.mp hmisfits
      obtain ⟨t, ht, hm⟩ := List.mem_filterMap.mp hp
      obtain ⟨m, hmisfit, rfl⟩ := Option.map_eq_some_iff.mp hm
      exact ⟨d, (mem_values_iff hmade).mp hd, rfl, .inl ⟨t, ht, m, hmisfit, rfl⟩⟩
    · obtain ⟨name, hname, rfl⟩ := List.mem_map.mp hcycle
      have hself := mem_cyclicNames_iff.mp hname
      obtain ⟨n, ⟨d, hd, -⟩, -⟩ := TransGen.head'_iff.mp hself
      obtain rfl := hmade.name_eq hd
      exact ⟨d, hd, rfl, .inr ⟨rfl, hself⟩⟩
  · obtain ⟨name, cause⟩ := p
    rintro ⟨d, hd, hname, ⟨t, ht, m, hm, hcause⟩ | ⟨hcause, hself⟩⟩
    · refine .inl (List.mem_flatMap.mpr ⟨d, (mem_values_iff hmade).mpr hd, ?_⟩)
      refine List.mem_filterMap.mpr ⟨t, ht, ?_⟩
      cases hname
      cases hcause
      rw [hm, Option.map_some]
    · cases hname
      cases hcause
      exact .inr (List.mem_map.mpr ⟨d.name, mem_cyclicNames_iff.mpr hself, rfl⟩)

/-! ## With further declarations -/

/-- A name of a universe without misfits extends the same names where there are more declarations,
and these are names of the universe, too. -/
theorem EnlargedBy.nameExtends (h : u.EnlargedBy u') {a b : String}
    (ha : u.contains a = true) (hab : u'.NameExtends a b) :
    u.NameExtends a b ∧ u.contains b = true := by
  obtain ⟨d, hd⟩ := Option.isSome_iff_exists.mp ha
  obtain ⟨d', hd', t, ht, hb⟩ := hab
  obtain rfl : d = d' := Option.some.inj ((h.within a d hd).symm.trans hd')
  have hfits : u.Fits t := h.noMisfits.fits_of_mem_references hd
    (List.mem_append_left _ (List.mem_append_left _ ht))
  refine ⟨⟨d, hd, t, ht, hb⟩, ?_⟩
  cases t with
  | declared name args =>
    obtain rfl : name = b := Option.some.inj hb
    obtain ⟨⟨e, he, -⟩, -⟩ := fits_declared_iff.mp hfits
    exact Option.isSome_iff_exists.mpr ⟨e, he⟩
  | _ => cases hb

theorem EnlargedBy.leadsTo (h : u.EnlargedBy u') {a b : String} (ha : u.contains a = true)
    (hab : TransGen u'.NameExtends a b) : TransGen u.NameExtends a b := by
  induction hab using TransGen.head_induction_on with
  | single hstep => exact .single (h.nameExtends ha hstep).1
  | head hstep _ ih =>
    obtain ⟨hextends, hknown⟩ := h.nameExtends ha hstep
    exact .head hextends (ih hknown)

/-- Further declarations make no problem in a universe without misfits. -/
theorem EnlargedBy.mem_problems (h : u.EnlargedBy u') (hmade : u'.IsMade) (hp : p ∈ u'.problems)
    (hknown : u.contains p.name = true) : p ∈ u.problems := by
  obtain ⟨d', hd', hname, hcause⟩ := (mem_problems_iff hmade).mp hp
  rw [hname] at hknown
  obtain ⟨d, hd⟩ := Option.isSome_iff_exists.mp hknown
  obtain rfl : d = d' := Option.some.inj ((h.within _ d hd).symm.trans hd')
  refine (mem_problems_iff h.made).mpr ⟨d, hd, hname, ?_⟩
  rcases hcause with ⟨t, ht, m, hm, -⟩ | ⟨hcycle, hself⟩
  · have hfits : u'.Fits t := h.fits (h.noMisfits.fits_of_mem_references hd ht)
    rw [misfit?_eq_none_iff.mpr hfits] at hm
    cases hm
  · exact .inr ⟨hcycle, h.leadsTo hknown hself⟩

theorem problems_builtin : builtin.problems = [] := by rfl

theorem noMisfits_builtin : builtin.NoMisfits := by
  intro p hp
  rw [problems_builtin] at hp
  cases hp

/-- There is nothing wrong with the built-in types, whatever else is declared. -/
theorem IsMade.not_builtin_of_mem_problems (hmade : u.IsMade) (hp : p ∈ u.problems) :
    Universe.builtin.contains p.name = false := by
  have henlarged : Universe.builtin.EnlargedBy u :=
    ⟨.builtin, noMisfits_builtin, fun _ _ hd => hmade.get?_builtin hd⟩
  by_contra hknown
  have hmem := henlarged.mem_problems hmade hp (by simpa using hknown)
  rw [problems_builtin] at hmem
  cases hmem

end TypedPrefs.Universe
