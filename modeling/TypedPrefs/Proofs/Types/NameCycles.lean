import TypedPrefs.Proofs.Types.Termination
import TypedPrefs.Types.Wellformed

/-!
# Cycles among names

What is written as supertypes makes a graph of names: a name leads to those that its declaration
extends, whatever their arguments are. A walk over this graph enters no name twice, in whatever
branch it is, so it ends; and a name that it has entered without meeting its target cannot lead
there. So the names that are reported to be cyclic are exactly those that lead back to themselves.
-/

namespace TypedPrefs.Universe

open Relation

variable {u : Universe} {target name : String} {entered after : List String}
variable {walk walk' : List String → String → NameTrail}

/-! ## The graph of names -/

/-- The declaration of a name extends a type of the other name. -/
def NameExtends (u : Universe) (a b : String) : Prop :=
  ∃ d, u.get? a = some d ∧ ∃ t ∈ d.supertypes, t.declaredName? = some b

theorem mem_supertypeNames_iff {a b : String} : b ∈ u.supertypeNames a ↔ u.NameExtends a b := by
  rw [supertypeNames, NameExtends]
  cases u.get? a with
  | none => simp
  | some d => simp [List.mem_filterMap]

/-- A name that extends something is declared. -/
theorem mem_keys_of_nameExtends {a b : String} (h : u.NameExtends a b) : a ∈ u.decls.keys := by
  obtain ⟨d, hd, -⟩ := h
  exact List.mem_map.mpr ⟨(a, d), Entries.mem_of_get? hd, rfl⟩

/-! ## Walks that end -/

/-- A walk over names that ends and forgets no name that it has entered. -/
def NameEnds (entered : List String) (trail : NameTrail) : Prop :=
  ∃ found after, trail = some (found, after) ∧ entered ⊆ after

theorem nameEnds_firstLeading {names : List String}
    (h : ∀ n ∈ names, ∀ before, entered ⊆ before → n ∉ before →
      NameEnds (n :: before) (walk (n :: before) n)) :
    NameEnds entered (firstLeading target walk entered names) := by
  induction names generalizing entered with
  | nil => exact ⟨false, entered, rfl, List.Subset.refl _⟩
  | cons n rest ih =>
    have hrest : ∀ {middle}, entered ⊆ middle →
        NameEnds middle (firstLeading target walk middle rest) := fun hmiddle =>
      ih fun m hm before hbefore =>
        h m (List.mem_cons_of_mem _ hm) before (List.Subset.trans hmiddle hbefore)
    rw [firstLeading]
    split
    · exact ⟨true, entered, rfl, List.Subset.refl _⟩
    · split
      · exact hrest (List.Subset.refl _)
      · next hnew =>
        obtain ⟨found, middle, hwalk, hkept⟩ :=
          h n List.mem_cons_self entered (List.Subset.refl _) (by simpa using hnew)
        have hmiddle : entered ⊆ middle := fun x hx => hkept (List.mem_cons_of_mem _ hx)
        rw [hwalk]
        cases found with
        | true => exact ⟨true, middle, rfl, hmiddle⟩
        | false =>
          obtain ⟨found, last, hlast, hsubset⟩ := hrest hmiddle
          exact ⟨found, last, hlast, List.Subset.trans hmiddle hsubset⟩

/-- A walk from a name that is not declared ends at once. -/
theorem nameEnds_of_undeclared (hname : name ∉ u.decls.keys) (depth : Nat) :
    NameEnds entered (u.nameWalk target (depth + 1) entered name) := by
  have hnone : u.supertypeNames name = [] := by
    rw [List.eq_nil_iff_forall_not_mem]
    exact fun n hn => hname (mem_keys_of_nameExtends (mem_supertypeNames_iff.mp hn))
  rw [nameWalk, hnone]
  exact ⟨false, entered, rfl, List.Subset.refl _⟩

/-- A walk ends if its depth exceeds the number of declared names that are left to enter by two: the
one for the name that it starts from, the other for a last name that is not declared. -/
theorem nameEnds_nameWalk {depth : Nat}
    (hdepth : remaining u.decls.keys.toFinset entered + 1 < depth) :
    NameEnds entered (u.nameWalk target depth entered name) := by
  induction depth generalizing entered name with
  | zero => omega
  | succ depth ih =>
    rw [nameWalk]
    refine nameEnds_firstLeading fun n _ before hbefore hnew => ?_
    by_cases hn : n ∈ u.decls.keys
    · have hlt := remaining_cons_lt (List.mem_toFinset.mpr hn) hnew
      have hle : remaining u.decls.keys.toFinset before ≤
          remaining u.decls.keys.toFinset entered := remaining_le_of_subset hbefore
      exact ih (by omega)
    · obtain ⟨level, rfl⟩ := Nat.exists_eq_succ_of_ne_zero (show depth ≠ 0 by omega)
      exact nameEnds_of_undeclared hn level

/-! ## Deeper walks -/

theorem firstLeading_of_imp
    (h : ∀ entered n r, walk entered n = some r → walk' entered n = some r) {names : List String}
    {r : Bool × List String} (hr : firstLeading target walk entered names = some r) :
    firstLeading target walk' entered names = some r := by
  induction names generalizing entered with
  | nil => exact hr
  | cons n rest ih =>
    rw [firstLeading] at hr ⊢
    split at hr
    · next heq => rwa [if_pos heq]
    · next hne =>
      rw [if_neg hne]
      split at hr
      · next hentered =>
        rw [if_pos hentered]
        exact ih hr
      · next hentered =>
        rw [if_neg hentered]
        cases hwalk : walk (n :: entered) n with
        | none => simp [hwalk] at hr
        | some answer =>
          obtain ⟨found, middle⟩ := answer
          rw [h _ _ _ hwalk]
          cases found with
          | true => simpa only [hwalk] using hr
          | false =>
            simp only [hwalk] at hr
            exact ih hr

/-- What a walk finds it also finds with one more level. -/
theorem nameWalk_succ {depth : Nat} {r : Bool × List String}
    (h : u.nameWalk target depth entered name = some r) :
    u.nameWalk target (depth + 1) entered name = some r := by
  induction depth generalizing entered name r with
  | zero => cases h
  | succ depth ih =>
    rw [nameWalk] at h ⊢
    exact firstLeading_of_imp (fun _ _ _ => ih) h

theorem nameWalk_mono {depth depth' : Nat} (hle : depth ≤ depth') {r : Bool × List String}
    (h : u.nameWalk target depth entered name = some r) :
    u.nameWalk target depth' entered name = some r := by
  induction hle with
  | refl => exact h
  | step _ ih => exact nameWalk_succ ih

/-- Every walk over names ends, at a depth that the number of declarations bounds, and with an
answer that does not depend on it. -/
theorem exists_nameWalk (u : Universe) (target : String) (entered : List String) (name : String) :
    ∃ found after, entered ⊆ after ∧ ∀ depth, u.decls.size + 1 < depth →
      u.nameWalk target depth entered name = some (found, after) := by
  have hsize : remaining u.decls.keys.toFinset entered ≤ u.decls.size := by
    calc remaining u.decls.keys.toFinset entered
        ≤ u.decls.keys.toFinset.card := Finset.card_le_card Finset.sdiff_subset
      _ ≤ u.decls.keys.length := List.toFinset_card_le _
      _ = u.decls.size := List.length_map _
  obtain ⟨found, after, hwalk, hsubset⟩ :
      NameEnds entered (u.nameWalk target (u.decls.size + 2) entered name) :=
    nameEnds_nameWalk (by omega)
  exact ⟨found, after, hsubset, fun depth hdepth => nameWalk_mono hdepth hwalk⟩

/-! ## What a walk finds -/

theorem firstLeading_sound {names : List String}
    (h : firstLeading target walk entered names = some (true, after)) :
    ∃ n ∈ names, n = target ∨ ∃ before after', walk before n = some (true, after') := by
  induction names generalizing entered with
  | nil => cases h
  | cons n rest ih =>
    have hrest : ∀ {middle}, firstLeading target walk middle rest = some (true, after) →
        ∃ m ∈ n :: rest, m = target ∨ ∃ before after', walk before m = some (true, after') :=
      fun hr =>
        let ⟨m, hm, hfound⟩ := ih hr
        ⟨m, List.mem_cons_of_mem _ hm, hfound⟩
    rw [firstLeading] at h
    split at h
    · next heq => exact ⟨n, List.mem_cons_self, .inl heq⟩
    · split at h
      · exact hrest h
      · split at h
        · exact hrest h
        · exact ⟨n, List.mem_cons_self, .inr ⟨_, _, h⟩⟩

/-- A name that a walk meets is one that the graph leads to. -/
theorem nameWalk_sound {depth : Nat}
    (h : u.nameWalk target depth entered name = some (true, after)) :
    TransGen u.NameExtends name target := by
  induction depth generalizing entered name after with
  | zero => cases h
  | succ depth ih =>
    obtain ⟨n, hn, hfound⟩ := firstLeading_sound h
    have hstep := mem_supertypeNames_iff.mp hn
    rcases hfound with rfl | ⟨before, after', hwalk⟩
    · exact .single hstep
    · exact .head hstep (ih hwalk)

/-! ## What a walk leaves behind -/

/-- A name that a walk to `target` has passed: it is another one, and it has been entered. -/
def Passed (target : String) (entered : List String) (n : String) : Prop :=
  n ≠ target ∧ n ∈ entered

/-- A walk that has not met its target keeps what it has entered, and has passed all names that
those extend which it has entered on its way. -/
structure Passes (u : Universe) (target : String) (before after : List String) : Prop where
  subset : before ⊆ after
  passed : ∀ n ∈ after, n ∉ before → ∀ m, u.NameExtends n m → Passed target after m

theorem Passed.of_subset {n : String} (h : Passed target entered n) (hsubset : entered ⊆ after) :
    Passed target after n :=
  ⟨h.1, hsubset h.2⟩

theorem Passes.refl (entered : List String) : u.Passes target entered entered where
  subset := List.Subset.refl _
  passed _ hafter hbefore := absurd hafter hbefore

theorem Passes.trans {before middle : List String} (h : u.Passes target before middle)
    (h' : u.Passes target middle after) : u.Passes target before after where
  subset := List.Subset.trans h.subset h'.subset
  passed n hafter hbefore m hm := by
    by_cases hmiddle : n ∈ middle
    · exact (h.passed n hmiddle hbefore m hm).of_subset h'.subset
    · exact h'.passed n hafter hmiddle m hm

/-- A name is entered before what it extends is walked over. -/
theorem Passes.of_cons {n : String} {before : List String} (h : u.Passes target (n :: before) after)
    (hn : ∀ m, u.NameExtends n m → Passed target after m) : u.Passes target before after where
  subset x hx := h.subset (List.mem_cons_of_mem _ hx)
  passed x hafter hbefore m hm := by
    by_cases heq : x = n
    · exact hn m (heq ▸ hm)
    · exact h.passed x hafter (by simpa [heq] using hbefore) m hm

theorem passes_firstLeading {names : List String}
    (hwalk : ∀ n ∈ names, ∀ before after, walk (n :: before) n = some (false, after) →
      u.Passes target (n :: before) after ∧ ∀ m, u.NameExtends n m → Passed target after m)
    (h : firstLeading target walk entered names = some (false, after)) :
    u.Passes target entered after ∧ ∀ n ∈ names, Passed target after n := by
  induction names generalizing entered with
  | nil =>
    cases h
    exact ⟨.refl _, nofun⟩
  | cons n rest ih =>
    have hrest : ∀ m ∈ rest, ∀ before after, walk (m :: before) m = some (false, after) →
        u.Passes target (m :: before) after ∧ ∀ k, u.NameExtends m k → Passed target after k :=
      fun m hm => hwalk m (List.mem_cons_of_mem _ hm)
    rw [firstLeading] at h
    split at h
    · cases h
    · next hne =>
      split at h
      · next hentered =>
        obtain ⟨hpasses, hall⟩ := ih hrest h
        have hn : Passed target after n := ⟨hne, hpasses.subset (by simpa using hentered)⟩
        exact ⟨hpasses, List.forall_mem_cons.mpr ⟨hn, hall⟩⟩
      · split at h
        · next middle hfirst =>
          obtain ⟨hinner, hn⟩ := hwalk n List.mem_cons_self _ _ hfirst
          obtain ⟨hpasses, hall⟩ := ih hrest h
          have hpassed : Passed target after n :=
            ⟨hne, hpasses.subset (hinner.subset List.mem_cons_self)⟩
          exact ⟨(hinner.of_cons hn).trans hpasses, List.forall_mem_cons.mpr ⟨hpassed, hall⟩⟩
        · next hother => exact absurd h (hother after)

theorem passes_nameWalk {depth : Nat}
    (h : u.nameWalk target depth entered name = some (false, after)) :
    u.Passes target entered after ∧ ∀ n, u.NameExtends name n → Passed target after n := by
  induction depth generalizing entered name after with
  | zero => cases h
  | succ depth ih =>
    obtain ⟨hpasses, hall⟩ := passes_firstLeading (fun n _ before after' hwalk => ih hwalk) h
    exact ⟨hpasses, fun n hn => hall n (mem_supertypeNames_iff.mpr hn)⟩

/-- **Nothing is missed**: a walk that starts with nothing entered and does not meet its target has
passed all names that the graph leads to. -/
theorem nameWalk_complete {depth : Nat}
    (h : u.nameWalk target depth [] name = some (false, after)) :
    ¬ TransGen u.NameExtends name target := by
  obtain ⟨hpasses, hfirst⟩ := passes_nameWalk h
  have hall : ∀ n, TransGen u.NameExtends name n → Passed target after n := by
    intro n hn
    induction hn with
    | single hstep => exact hfirst _ hstep
    | tail _ hstep ih => exact hpasses.passed _ ih.2 List.not_mem_nil _ hstep
  exact fun htarget => (hall target htarget).1 rfl

/-- Whether a name leads to another one is answered rightly as soon as the depth exceeds the number
of declarations by two. -/
theorem leadsTo?_eq (u : Universe) {depth : Nat} (hdepth : u.decls.size + 1 < depth)
    (name target : String) :
    ∃ found, u.leadsTo? depth name target = some found ∧
      (found = true ↔ TransGen u.NameExtends name target) := by
  obtain ⟨found, after, -, hwalk⟩ := u.exists_nameWalk target [] name
  refine ⟨found, by rw [leadsTo?, hwalk depth hdepth, Option.map_some], ?_⟩
  cases found with
  | true => exact iff_of_true rfl (nameWalk_sound (hwalk depth hdepth))
  | false => exact iff_of_false Bool.false_ne_true (nameWalk_complete (hwalk depth hdepth))

theorem isCyclic_iff : u.isCyclic name = true ↔ TransGen u.NameExtends name name := by
  obtain ⟨found, hanswer, hfound⟩ := u.leadsTo?_eq (Nat.lt_succ_self _) name name
  rw [← hfound, isCyclic, hanswer]
  simp

/-! ## The reports -/

/-- The names that are reported to be cyclic, in the order of the reports. -/
def cyclicNames (u : Universe) : List String := u.decls.keys.filter u.isCyclic

theorem mem_cyclicNames_iff : name ∈ u.cyclicNames ↔ TransGen u.NameExtends name name := by
  rw [cyclicNames, List.mem_filter, isCyclic_iff]
  refine and_iff_right_of_imp fun h => ?_
  obtain ⟨n, hstep, -⟩ := TransGen.head'_iff.mp h
  exact mem_keys_of_nameExtends hstep

/-- The cyclic names are in increasing order, so none of them comes twice. -/
theorem sorted_cyclicNames (u : Universe) : u.cyclicNames.Pairwise (· < ·) :=
  List.Pairwise.filter _ (List.pairwise_map.mpr u.decls.sorted)

theorem nodup_cyclicNames (u : Universe) : u.cyclicNames.Nodup :=
  u.sorted_cyclicNames.imp fun {a b} hlt heq => by
    subst heq
    exact String.lt_irrefl _ hlt

/-- The wording of the report of a cyclic name. -/
def cycleMessage (name : String) : String := "Cyclic inheritance involving " ++ name

theorem toList_cycleMessage (name : String) :
    (cycleMessage name).toList = "Cyclic inheritance involving ".toList ++ name.toList := by
  exact String.toList_append

theorem cycleMessage_injective : Function.Injective cycleMessage := by
  intro a b h
  have hlist := congrArg String.toList h
  rw [toList_cycleMessage, toList_cycleMessage] at hlist
  exact String.toList_injective (List.append_cancel_left hlist)

/-- A misfit is never worded like a cycle. -/
theorem message_ne_cycleMessage (m : TypeMisfit) (name : String) :
    m.message ≠ cycleMessage name := by
  intro h
  have hfront : "Cyclic inheritance involving ".toList <+: m.message.toList := by
    rw [h, toList_cycleMessage]
    exact List.prefix_append _ _
  revert hfront
  unfold TypeMisfit.message
  cases m <;> simp

/-- The problems that are misfits. -/
def misfits (u : Universe) : List Problem := u.decls.values.flatMap u.declProblems

theorem problems_eq (u : Universe) :
    u.problems = u.misfits ++ u.cyclicNames.map fun name => ⟨name, .cycle⟩ := rfl

theorem message_ne_of_mem_misfits {p : Problem} (h : p ∈ u.misfits) (name : String) :
    p.message ≠ cycleMessage name := by
  obtain ⟨d, -, hd⟩ := List.mem_flatMap.mp h
  obtain ⟨t, -, ht⟩ := List.mem_filterMap.mp hd
  obtain ⟨m, -, rfl⟩ := Option.map_eq_some_iff.mp ht
  exact message_ne_cycleMessage m name

/-- A name has one report for each time that it is among the cyclic names. -/
theorem count_cycleMessage (u : Universe) (name : String) :
    (u.problems.map Problem.message).count (cycleMessage name) = u.cyclicNames.count name := by
  have hmisfits : (u.misfits.map Problem.message).count (cycleMessage name) = 0 := by
    rw [List.count_eq_zero, List.mem_map]
    rintro ⟨p, hp, heq⟩
    exact message_ne_of_mem_misfits hp name heq
  have hcycles : (u.cyclicNames.map fun name => (⟨name, .cycle⟩ : Problem)).map Problem.message =
      u.cyclicNames.map cycleMessage := List.map_map
  rw [problems_eq, List.map_append, List.count_append, hmisfits, hcycles, Nat.zero_add]
  exact List.count_map_of_injective _ _ cycleMessage_injective name

/-- **The reports of cycles are exact on the graph of names.** A name is reported once if the graph
leads from it back to it in at least one step, and otherwise it is not. The reports of cycles come
behind all others, in increasing order of the names. And every walk over the names ends, with an
answer that does not depend on the limit on its depth. -/
theorem cycle_reports_exact (u : Universe) :
    (∀ name,
      (TransGen u.NameExtends name name →
        (u.problems.map Problem.message).count (cycleMessage name) = 1) ∧
      (¬ TransGen u.NameExtends name name →
        cycleMessage name ∉ u.problems.map Problem.message)) ∧
    (∃ (others : List Problem) (names : List String),
      u.problems = others ++ names.map (fun name => ⟨name, .cycle⟩) ∧
      (∀ p ∈ others, ∀ name, p.message ≠ cycleMessage name) ∧ names.Pairwise (· < ·)) ∧
    (∀ target entered name, ∃ found after, ∀ depth, u.decls.size + 1 < depth →
      u.nameWalk target depth entered name = some (found, after)) := by
  refine ⟨fun name => ⟨fun hcycle => ?_, fun hnone => ?_⟩, ?_, fun target entered name => ?_⟩
  · rw [count_cycleMessage]
    exact List.count_eq_one_of_mem u.nodup_cyclicNames (mem_cyclicNames_iff.mpr hcycle)
  · rw [← List.count_eq_zero, count_cycleMessage, List.count_eq_zero]
    exact fun hname => hnone (mem_cyclicNames_iff.mp hname)
  · exact ⟨u.misfits, u.cyclicNames, u.problems_eq, fun _ => message_ne_of_mem_misfits,
      u.sorted_cyclicNames⟩
  · obtain ⟨found, after, -, hwalk⟩ := u.exists_nameWalk target entered name
    exact ⟨found, after, hwalk⟩

end TypedPrefs.Universe
