import Mathlib.Data.Finset.Card
import TypedPrefs.Proofs.Types.Finiteness
import TypedPrefs.Proofs.Types.Walks

/-!
# Walks that end

A walk enters no type twice. If only finitely many types are reached, each step has fewer of them
left to enter, so the walk ends at a depth that their number bounds. From there on the answer does
not depend on the depth. Where supertypes grow, walks need not end.
-/

namespace TypedPrefs.Universe

open Relation

variable {α : Type} {u : Universe} {skip : TypeRef → Bool}
variable {walk : List String → TypeRef → Trail α} {entered : List String}

/-! ## Walks among finitely many types -/

/-- A walk that ends and forgets no type that it has entered. -/
def Ends (entered : List String) (trail : Trail α) : Prop :=
  ∃ answer after, trail = some (answer, after) ∧ entered ⊆ after

/-- The names among `names` that are not entered yet. -/
def remaining (names : Finset String) (entered : List String) : Nat :=
  (names \ entered.toFinset).card

theorem remaining_le_of_subset {names : Finset String} {before after : List String}
    (h : before ⊆ after) : remaining names after ≤ remaining names before := by
  have hsubset : before.toFinset ⊆ after.toFinset := by
    intro name hname
    rw [List.mem_toFinset] at hname ⊢
    exact h hname
  exact Finset.card_le_card (Finset.sdiff_subset_sdiff (Finset.Subset.refl names) hsubset)

theorem remaining_cons_lt {names : Finset String} {name : String} (hname : name ∈ names)
    (hnew : name ∉ entered) : remaining names (name :: entered) < remaining names entered := by
  refine Finset.card_lt_card ⟨?_, fun hsubset => ?_⟩
  · intro x hx
    simp only [List.toFinset_cons, Finset.mem_sdiff, Finset.mem_insert, not_or] at hx ⊢
    exact ⟨hx.1, hx.2.2⟩
  · have hmem := hsubset (Finset.mem_sdiff.mpr ⟨hname, by simpa using hnew⟩)
    simp at hmem

theorem ends_firstAnswer {ts : List TypeRef}
    (h : ∀ before s, s ∈ ts → entered ⊆ before → Ends before (walk before s)) :
    Ends entered (firstAnswer walk entered ts) := by
  induction ts generalizing entered with
  | nil => exact ⟨none, entered, rfl, List.Subset.refl _⟩
  | cons s rest ih =>
    obtain ⟨answer, after, hwalk, hsubset⟩ := h entered s List.mem_cons_self (List.Subset.refl _)
    rw [firstAnswer, hwalk]
    cases answer with
    | some a => exact ⟨some a, after, rfl, hsubset⟩
    | none =>
      obtain ⟨answer', after', hrest, hsubset'⟩ := ih fun before r hr hafter =>
        h before r (List.mem_cons_of_mem _ hr) (List.Subset.trans hsubset hafter)
      exact ⟨answer', after', hrest, List.Subset.trans hsubset hsubset'⟩

/-- A walk ends if its depth exceeds the number of types that are left to enter. Entering a type
leaves one less, so the supertypes have enough depth too. -/
theorem IsWalk.ends {walk : Nat → List String → TypeRef → Trail α} (hwalk : u.IsWalk skip walk)
    {names : Finset String} {depth : Nat} {t : TypeRef}
    (hnames : ∀ s, u.Reaches t s → s.display ∈ names)
    (hdepth : remaining names entered < depth) : Ends entered (walk depth entered t) := by
  induction depth generalizing entered t with
  | zero => omega
  | succ depth ih =>
    rcases hwalk.step t with ⟨answer, hanswer⟩ | henter
    · exact ⟨answer, entered, hanswer depth entered, List.Subset.refl _⟩
    · rw [henter, enter]
      split
      · exact ⟨none, entered, rfl, List.Subset.refl _⟩
      · next hnew =>
        -- entering `t` uses up one name, which pays for the level that the supertypes have less
        have hlt := remaining_cons_lt (hnames t .refl) (by simpa using hnew)
        obtain ⟨answer, after, hfirst, hsubset⟩ :
            Ends (t.display :: entered) (firstAnswer (walk depth) (t.display :: entered)
              ((u.directSupertypes t).filter (!skip ·))) := by
          refine ends_firstAnswer fun before s hs hbefore => ih (fun r hr => ?_) ?_
          · exact hnames r (hr.head (List.mem_of_mem_filter hs))
          · have hle : remaining names before ≤ remaining names (t.display :: entered) :=
              remaining_le_of_subset hbefore
            omega
        exact ⟨answer, after, hfirst, fun x hx => hsubset (List.mem_cons_of_mem _ hx)⟩

/-- Among finitely many types there is an answer from some depth on, always the same. -/
theorem IsWalk.exists_answer {walk : Nat → List String → TypeRef → Trail α}
    (hwalk : u.IsWalk skip walk) {t : TypeRef} (hfinite : {s | u.Reaches t s}.Finite) :
    ∃ r, ∀ depth, hfinite.toFinset.card < depth → walk depth [] t = some r := by
  have hcard : remaining (hfinite.toFinset.image TypeRef.display) [] ≤ hfinite.toFinset.card := by
    rw [remaining, List.toFinset_nil, Finset.sdiff_empty]
    exact Finset.card_image_le
  obtain ⟨answer, after, hends, -⟩ : Ends [] (walk (hfinite.toFinset.card + 1) [] t) :=
    hwalk.ends (fun s hs => Finset.mem_image_of_mem _ (hfinite.mem_toFinset.mpr hs))
      (Nat.lt_succ_of_le hcard)
  exact ⟨(answer, after), fun depth hdepth => hwalk.mono hdepth hends⟩

/-! ## The questions about supertypes -/

section Questions

variable {t : TypeRef}

theorem exists_isSubtype? (hfinite : {s | u.Reaches t s}.Finite) (sup : TypeRef) :
    ∃ answer, ∀ depth, hfinite.toFinset.card < depth → u.isSubtype? depth t sup = some answer := by
  obtain ⟨⟨answer, after⟩, hanswer⟩ := (u.isWalk_subtypeWalk sup).exists_answer hfinite
  exact ⟨answer.isSome, fun depth hdepth => by rw [isSubtype?, hanswer depth hdepth]; rfl⟩

theorem exists_isSubtypeOfAll? (hfinite : {s | u.Reaches t s}.Finite) (sups : List TypeRef) :
    ∃ answer, ∀ depth, hfinite.toFinset.card < depth →
      u.isSubtypeOfAll? depth t sups = some answer := by
  induction sups with
  | nil => exact ⟨true, fun depth _ => rfl⟩
  | cons sup rest ih =>
    obtain ⟨first, hfirst⟩ := exists_isSubtype? hfinite sup
    cases first with
    | true =>
      obtain ⟨answer, hanswer⟩ := ih
      exact ⟨answer, fun depth hdepth => by
        simp only [isSubtypeOfAll?, hfirst depth hdepth, hanswer depth hdepth]⟩
    | false =>
      exact ⟨false, fun depth hdepth => by simp only [isSubtypeOfAll?, hfirst depth hdepth]⟩

theorem exists_serializerArguments? (hfinite : {s | u.Reaches t s}.Finite) :
    ∃ answer, ∀ depth, hfinite.toFinset.card < depth →
      u.serializerArguments? depth t = some answer := by
  obtain ⟨⟨answer, after⟩, hanswer⟩ := u.isWalk_serializerWalk.exists_answer hfinite
  exact ⟨_, fun depth hdepth => by rw [serializerArguments?, hanswer depth hdepth]; rfl⟩

end Questions

/-- **When walks end**: a type has finitely many supertypes exactly if it does not lead to a place
that grows, and then all questions about its supertypes are answered at every sufficient depth, and
always in the same way. -/
theorem finite_supertypes_iff_and_walks_end (u : Universe) (t : TypeRef) :
    ({s | u.Reaches t s}.Finite ↔ ¬ u.GrowsFrom t) ∧
      (¬ u.GrowsFrom t → ∃ bound,
        (∀ sup, ∃ answer, ∀ depth, bound < depth → u.isSubtype? depth t sup = some answer) ∧
        (∀ param, ∃ answer, ∀ depth, bound < depth →
          u.satisfiesBounds? depth t param = some answer) ∧
        ∃ answer, ∀ depth, bound < depth → u.serializerArguments? depth t = some answer) := by
  refine ⟨finite_supertypes_iff, fun hgrows => ?_⟩
  have hfinite := finite_supertypes_iff.mpr hgrows
  refine ⟨hfinite.toFinset.card, exists_isSubtype? hfinite, fun param => ?_, ?_⟩
  · exact exists_isSubtypeOfAll? hfinite (param.bounds.map (TypeRef.substitute [param.name] [t]))
  · exact exists_serializerArguments? hfinite

/-- The walks from `Integer` end: it leads to `Number` and no further. -/
theorem finite_supertypes_iff_and_walks_end_integer :
    ¬ builtin.GrowsFrom (TypeRef.named "Integer") ∧ ∃ bound, ∀ sup, ∃ answer, ∀ depth,
      bound < depth → builtin.isSubtype? depth (TypeRef.named "Integer") sup = some answer := by
  have hfinite : {s | builtin.Reaches (TypeRef.named "Integer") s}.Finite := by
    refine (List.finite_toSet [TypeRef.named "Integer", TypeRef.named "Number"]).subset ?_
    intro s hs
    induction hs with
    | refl => exact List.mem_cons_self
    | tail _ hstep ih =>
      rcases List.mem_pair.mp ih with rfl | rfl
      · exact List.mem_cons_of_mem _ hstep
      · cases hstep
  have hgrows := (finite_supertypes_iff_and_walks_end builtin _).1.mp hfinite
  obtain ⟨bound, hsub, -, -⟩ := (finite_supertypes_iff_and_walks_end builtin _).2 hgrows
  exact ⟨hgrows, bound, hsub⟩

/-! ## Walks that do not end -/

/-- A type that extends itself with a set of its argument as the argument. -/
def growingDecl : TypeDecl :=
  { name := "Grow"
    kind := .plain
    params := [⟨"T", []⟩]
    supertypes := [.declared "Grow" [.declared Builtin.set [.variable "T"]]]
    constructors := [[]] }

/-- The built-in types and the one that grows. -/
def growing : Universe := ⟨builtin.decls.put "Grow" growingDecl⟩

/-- A string in so many sets. -/
def nestedSet : Nat → TypeRef
  | 0 => TypeRef.named Builtin.string
  | n + 1 => .declared Builtin.set [nestedSet n]

/-- The supertype after `n` steps. -/
def grown (n : Nat) : TypeRef := .declared "Grow" [nestedSet n]

theorem directSupertypes_grown (n : Nat) :
    growing.directSupertypes (grown n) = [grown (n + 1)] := by
  rfl

theorem length_display_grown (n : Nat) :
    (grown n).display.length < (grown (n + 1)).display.length := by
  simp only [grown, nestedSet, TypeRef.display, TypeRef.displayRest, String.length_append]
  have hset : Builtin.set.length = 3 := by rfl
  omega

/-- A walk that has to enter the growing types meets every limit. Their names become longer, so none
of them has been entered before. -/
theorem IsWalk.endless {walk : Nat → List String → TypeRef → Trail α}
    (hwalk : growing.IsWalk skip walk) (hskip : ∀ n, skip (grown n) = false)
    (henter : ∀ n depth entered,
      walk (depth + 1) entered (grown n) = growing.enter (walk depth) skip entered (grown n))
    {depth n : Nat} (hentered : ∀ name ∈ entered, name.length < (grown n).display.length) :
    walk depth entered (grown n) = none := by
  induction depth generalizing entered n with
  | zero => exact hwalk.limit entered (grown n)
  | succ depth ih =>
    have hnew : (grown n).display ∉ entered := fun hmem => Nat.lt_irrefl _ (hentered _ hmem)
    have hlonger : ∀ name ∈ (grown n).display :: entered,
        name.length < (grown (n + 1)).display.length := by
      intro name hname
      have hlt := length_display_grown n
      rcases List.mem_cons.mp hname with rfl | hname
      · exact hlt
      · exact Nat.lt_trans (hentered name hname) hlt
    -- so the next type is walked to with one level less, and nothing else is
    rw [henter, enter, if_neg (by simpa using hnew), directSupertypes_grown]
    simp [hskip, firstAnswer, ih hlonger]

/-- The argument gets back to its place inside a set. -/
theorem growing_grows : growing.Grows ("Grow", 0) := by
  have hexposes :
      growing.Exposes "Grow" (.declared "Grow" [.declared Builtin.set [.variable "T"]]) :=
    .supertype (d := growingDecl) rfl List.mem_cons_self
  refine ⟨("Grow", 0), ("Grow", 0), .refl, ?_, .refl⟩
  refine ⟨growingDecl, "T", _, _, rfl, rfl, hexposes, rfl, ?_⟩
  exact TypeRef.mem_innerParts_declared.mpr ⟨_, List.mem_cons_self, TypeRef.self_mem_parts _⟩

/-- One declaration that is accepted is enough for walks of all kinds to meet every limit. -/
theorem walks_do_not_end :
    ∃ u t, builtin.declare? growingDecl = some u ∧ ¬ {s | u.Reaches t s}.Finite ∧
      (∀ depth, u.isSubtype? depth t (TypeRef.named Builtin.number) = none) ∧
      (∀ depth, u.satisfiesBounds? depth t ⟨"N", [TypeRef.named Builtin.number]⟩ = none) ∧
      ∀ depth, u.serializerArguments? depth t = none := by
  have hgrows : growing.GrowsFrom (grown 0) :=
    ⟨"Grow", _, 0, .refl, Nat.zero_lt_one, growing_grows⟩
  have hsub (depth : Nat) :
      growing.isSubtype? depth (grown 0) (TypeRef.named Builtin.number) = none := by
    have hwalk : growing.subtypeWalk (TypeRef.named Builtin.number) depth [] (grown 0) = none :=
      (isWalk_subtypeWalk growing _).endless (fun _ => rfl) (fun _ _ _ => rfl) nofun
    rw [isSubtype?, hwalk]
    rfl
  refine ⟨growing, grown 0, rfl, hgrows.infinite_supertypes, hsub, ?_, ?_⟩
  · intro depth
    show growing.isSubtypeOfAll? depth (grown 0) [TypeRef.named Builtin.number] = none
    simp only [isSubtypeOfAll?, hsub depth]
  · intro depth
    have hwalk : growing.serializerWalk depth [] (grown 0) = none :=
      (isWalk_serializerWalk growing).endless (fun _ => rfl) (fun _ _ _ => rfl) nofun
    rw [serializerArguments?, hwalk]
    rfl

end TypedPrefs.Universe
