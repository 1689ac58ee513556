import TypedPrefs.Proofs.Types.Fitting
import TypedPrefs.Proofs.Types.Layers
import TypedPrefs.Proofs.Types.NameCycles

/-!
# Types that are their own supertypes

The graph of names does not see a supertype that is written as a bare parameter, because it has no
name of its own. Such a supertype hands over an argument, whatever that is. So without a cycle among
names a type gets back to itself exactly if an argument is handed over on the way.

What a name leads to does see through bare parameters. If no name leads back to itself in this
sense, every walk over supertypes ends, so there is no way back from any type to itself.
-/

namespace TypedPrefs.Universe

open Relation

variable {u : Universe} {a b c t : TypeRef} {name : String} {args : List TypeRef}

/-- Where only finitely many steps lead on and none of them leads back, every way ends. The
induction is on the number of places that are ahead. -/
theorem acc_of_finite {α : Type} {r : α → α → Prop} {x : α} (hfinite : {y | TransGen r x y}.Finite)
    (hacyclic : ∀ y, ReflTransGen r x y → ¬ TransGen r y y) : Acc (fun y x => r x y) x := by
  induction hcard : {y | TransGen r x y}.ncard using Nat.strong_induction_on generalizing x with
  | _ count ih =>
    refine Acc.intro _ fun y hy => ?_
    have hahead : {z | TransGen r y z} ⊂ {z | TransGen r x z} := by
      refine ⟨fun z hz => hz.head hy, fun hback => ?_⟩
      exact hacyclic y (.single hy) (hback (.single hy))
    have hlt : {z | TransGen r y z}.ncard < count := hcard ▸ Set.ncard_lt_ncard hahead hfinite
    exact ih _ hlt (hfinite.subset hahead.1) (fun z hz => hacyclic z (hz.head hy)) rfl

/-! ## Arguments that are handed over -/

/-- A step to an argument: one of the supertypes is written as a bare parameter, and the argument is
what it stands for. -/
def HandsOver (u : Universe) (a b : TypeRef) : Prop :=
  ∃ name args d x i, a = .declared name args ∧ u.get? name = some d ∧
    .variable x ∈ d.supertypes ∧ d.paramNames.idxOf? x = some i ∧ args[i]? = some b

theorem mem_allSupertypes_of_mem_supertypes {d : TypeDecl} {p : TypeRef} (h : p ∈ d.supertypes) :
    p ∈ d.allSupertypes := by
  rw [TypeDecl.allSupertypes]
  split
  · exact List.mem_append_left _ h
  · exact h

/-- A supertype is written down, or it is the one that an enum has without saying so. -/
theorem mem_supertypes_or_eq_of_mem_allSupertypes {d : TypeDecl} {p : TypeRef}
    (h : p ∈ d.allSupertypes) : p ∈ d.supertypes ∨ p = .declared Builtin.enum [d.selfType] := by
  rw [TypeDecl.allSupertypes] at h
  split at h
  · exact (List.mem_append.mp h).imp_right List.mem_singleton.mp
  · exact .inl h

theorem HandsOver.extends (h : u.HandsOver a b) : u.Extends a b := by
  obtain ⟨name, args, d, x, i, rfl, hd, hx, hi, hb⟩ := h
  exact (extends_declared hd).mpr
    ⟨_, mem_allSupertypes_of_mem_supertypes hx, TypeRef.substitute_variable hi hb⟩

/-- If every supertype is written with a name of its own, nothing is handed over. -/
theorem not_handsOver_of_names
    (h : ∀ e ∈ u.decls.entries, ∀ p ∈ e.2.supertypes, p.declaredName?.isSome = true) :
    ¬ u.HandsOver a b := by
  rintro ⟨name, args, d, x, i, -, hd, hx, -⟩
  have hsome : (TypeRef.variable x).declaredName?.isSome = true :=
    h (name, d) (Entries.mem_of_get? hd) _ hx
  cases hsome

/-- Nothing is above `Enum`, whatever its arguments are. -/
theorem IsMade.directSupertypes_enum (h : u.IsMade) (args : List TypeRef) :
    u.directSupertypes (.declared Builtin.enum args) = [] := by
  have henum : u.get? Builtin.enum = some ⟨Builtin.enum, .plain, [⟨"E", []⟩], [], []⟩ :=
    h.get?_builtin rfl
  simp [directSupertypes, henum, TypeDecl.allSupertypes]

/-- A step from which another one goes on hands over an argument, or it is one among names. -/
theorem Extends.handsOver_or_nameExtends (hmade : u.IsMade) (hab : u.Extends a b)
    (hbc : u.Extends b c) :
    u.HandsOver a b ∨ ∃ m args n args', a = .declared m args ∧ b = .declared n args' ∧
      u.NameExtends m n := by
  obtain ⟨m, args, d, rfl, hd, p, hp, heq⟩ := hab.exists_supertype
  obtain ⟨n, args', -, rfl, -⟩ := hbc.source
  rcases mem_supertypes_or_eq_of_mem_allSupertypes hp with hwritten | rfl
  · rcases TypeRef.substitute_eq_declared heq with ⟨written, rfl, -⟩ | ⟨x, i, rfl, hi, hargument⟩
    · exact .inr ⟨m, args, n, args', rfl, rfl, d, hd, _, hwritten, rfl⟩
    · exact .inl ⟨m, args, d, x, i, rfl, hd, hwritten, hi, hargument⟩
  · -- the supertype that an enum has without saying so has none itself
    rw [TypeRef.substitute_declared] at heq
    obtain ⟨rfl, -⟩ := TypeRef.declared.inj heq
    rw [Extends, hmade.directSupertypes_enum] at hbc
    cases hbc

/-- If nothing is handed over on a way from a type to itself, it is a way among names. -/
theorem nameExtends_of_reachesProperly (hmade : u.IsMade)
    (hnone : ∀ s a, u.Reaches t s → u.HandsOver s a → ¬ u.Reaches a t)
    (h : u.ReachesProperly t b) (hback : u.ReachesProperly b t) :
    ∃ m args n args', t = .declared m args ∧ b = .declared n args' ∧
      TransGen u.NameExtends m n := by
  induction h with
  | single hstep =>
    obtain ⟨next, hnext, -⟩ := TransGen.head'_iff.mp hback
    rcases hstep.handsOver_or_nameExtends hmade hnext with hhands | ⟨m, args, n, args', h₁, h₂, h₃⟩
    · exact absurd hback.to_reflTransGen (hnone _ _ .refl hhands)
    · exact ⟨m, args, n, args', h₁, h₂, .single h₃⟩
  | tail hreach hstep ih =>
    obtain ⟨m, args, n, args', rfl, rfl, hnames⟩ := ih (hback.head hstep)
    obtain ⟨next, hnext, -⟩ := TransGen.head'_iff.mp hback
    rcases hstep.handsOver_or_nameExtends hmade hnext with
      hhands | ⟨n', args₁, k, args₂, h₁, h₂, h₃⟩
    · exact absurd hback.to_reflTransGen (hnone _ _ hreach.to_reflTransGen hhands)
    · obtain ⟨rfl, -⟩ := TypeRef.declared.inj h₁
      exact ⟨m, args, k, args₂, rfl, h₂, hnames.tail h₃⟩

/-- Without a cycle among names, a type is its own supertype exactly if there is a way back to it on
which an argument is handed over. -/
theorem reachesProperly_self_iff (hmade : u.IsMade)
    (hnames : ∀ name, ¬ TransGen u.NameExtends name name) :
    u.ReachesProperly t t ↔ ∃ s a, u.Reaches t s ∧ u.HandsOver s a ∧ u.Reaches a t := by
  constructor
  · intro hself
    by_contra hnone
    push Not at hnone
    obtain ⟨m, args, n, args', rfl, heq, hcycle⟩ :=
      nameExtends_of_reachesProperly hmade hnone hself hself
    obtain ⟨rfl, -⟩ := TypeRef.declared.inj heq
    exact hnames _ hcycle
  · rintro ⟨s, a, hbefore, hhands, hafter⟩
    exact .trans_right hbefore (.head' hhands.extends hafter)

/-! ## What names lead to -/

/-- A name has a supertype of the other name, where bare parameters are looked through. -/
def Leads (u : Universe) (a b : String) : Prop := ∃ args, u.Exposes a (.declared b args)

/-- A name that exposes something is declared. -/
theorem Exposes.exists_decl {p : TypeRef} (h : u.Exposes name p) : ∃ d, u.get? name = some d := by
  induction h with
  | supertype hd _ => exact ⟨_, hd⟩
  | argument _ _ _ _ _ ih _ => exact ih

/-- A type leads to types of all names that its name leads to. -/
theorem exists_reachesProperly_of_leads {m n : String} (h : TransGen u.Leads m n)
    (args : List TypeRef) :
    ∃ args', u.ReachesProperly (.declared m args) (.declared n args') := by
  have hone : ∀ {m n args}, u.Leads m n →
      ∃ args', u.ReachesProperly (.declared m args) (.declared n args') := by
    rintro m n args ⟨inner, hexposes⟩
    obtain ⟨d, hd⟩ := hexposes.exists_decl
    have hreach := hexposes.reachesProperly hd args
    rw [TypeRef.substitute_declared] at hreach
    exact ⟨_, hreach⟩
  induction h with
  | single hstep => exact hone hstep
  | tail _ hstep ih =>
    obtain ⟨args₁, hreach₁⟩ := ih
    obtain ⟨args₂, hreach₂⟩ := hone hstep
    exact ⟨args₂, hreach₁.trans hreach₂⟩

/-- Only names that are written down are led to. -/
theorem finite_leads (u : Universe) (name : String) : {n | TransGen u.Leads name n}.Finite := by
  refine ((u.finite_written .void).image fun p => p.declaredName?.getD "").subset fun n hn => ?_
  obtain ⟨m, -, args, hexposes⟩ := TransGen.tail'_iff.mp hn
  exact ⟨_, hexposes.mem_written .void, rfl⟩

/-! ## Walks up that end -/

/-- Every walk from a type over its supertypes ends. -/
def IsGrounded (u : Universe) (t : TypeRef) : Prop := Acc (fun s t => u.Extends t s) t

theorem isGrounded_of_directSupertypes_eq_nil (h : u.directSupertypes t = []) : u.IsGrounded t :=
  Acc.intro _ fun s hs => by
    rw [Extends, h] at hs
    cases hs

theorem IsGrounded.of_reaches (h : u.IsGrounded t) (hb : u.Reaches t b) : u.IsGrounded b := by
  induction hb with
  | refl => exact h
  | tail _ hstep ih => exact ih.inv hstep

/-- Walks end as well if they take several steps at once. -/
theorem IsGrounded.acc_reachesProperly (h : u.IsGrounded t) :
    Acc (fun s t => u.ReachesProperly t s) t :=
  Subrelation.accessible (fun hreach => transGen_swap.mpr hreach) (Acc.transGen h)

/-- A type from which all walks end is not its own supertype. -/
theorem IsGrounded.not_reachesProperly_self (h : u.IsGrounded t) : ¬ u.ReachesProperly t t := by
  have hacc := h.acc_reachesProperly
  clear h
  induction hacc with
  | intro t _ ih => exact fun hself => ih t hself hself

/-- If the ways from a name end, walks from a type of this name can only be endless by way of an
argument that is handed over. The outer induction is on the ways from the name, and the inner one on
the exposed reference, whose arguments may be handed over in turn. -/
theorem isGrounded_declared (hname : Acc (fun m n => u.Leads n m) name)
    (hargs : ∀ d x i a, u.get? name = some d → u.Exposes name (.variable x) →
      d.paramNames.idxOf? x = some i → args[i]? = some a → u.IsGrounded a) :
    u.IsGrounded (.declared name args) := by
  induction hname generalizing args with
  | intro name _ ih =>
    cases hd : u.get? name with
    | none => exact isGrounded_of_directSupertypes_eq_nil (by simp [directSupertypes, hd])
    | some d =>
      have hexposed : ∀ p, u.Exposes name p → u.IsGrounded (p.substitute d.paramNames args) := by
        intro p hp
        induction p with
        | primitive kind => exact isGrounded_of_directSupertypes_eq_nil rfl
        | void => exact isGrounded_of_directSupertypes_eq_nil rfl
        | parameter x =>
          rcases TypeRef.substitute_variable_cases d.paramNames args x
            with ⟨i, a, hi, ha, heq⟩ | heq
          · rw [heq]
            exact hargs d x i a hd hp hi ha
          · rw [heq]
            exact isGrounded_of_directSupertypes_eq_nil rfl
        | declared other inner ihinner =>
          rw [TypeRef.substitute_declared]
          refine ih other ⟨inner, hp⟩ fun e x i a he hx hi ha => ?_
          rw [List.getElem?_map] at ha
          obtain ⟨q, hq, rfl⟩ := Option.map_eq_some_iff.mp ha
          exact ihinner q (List.mem_of_getElem? hq) (.argument hp hx he hi hq)
      refine Acc.intro _ fun s hs => ?_
      obtain ⟨p, hp, rfl⟩ := (extends_declared hd).mp hs
      exact hexposed p (.supertype hd hp)

/-- **Where walks end**: every walk from a type over its supertypes ends exactly if none of them has
a name that leads back to itself. -/
theorem isGrounded_iff :
    u.IsGrounded t ↔
      ∀ name args, u.Reaches t (.declared name args) → ¬ TransGen u.Leads name name := by
  constructor
  · intro hgrounded name args hreach hcycle
    have hstart := hgrounded.of_reaches hreach
    -- from each type of the name there is a way to another one of it
    have hnever : ∀ s, Acc (fun s t => u.ReachesProperly t s) s →
        ∀ args, s ≠ .declared name args := by
      intro s hacc
      induction hacc with
      | intro s _ ih =>
        rintro args rfl
        obtain ⟨args', hreach'⟩ := exists_reachesProperly_of_leads hcycle args
        exact ih _ hreach' args' rfl
    exact hnever _ hstart.acc_reachesProperly args rfl
  · intro hacyclic
    induction t with
    | primitive kind => exact isGrounded_of_directSupertypes_eq_nil rfl
    | void => exact isGrounded_of_directSupertypes_eq_nil rfl
    | parameter x => exact isGrounded_of_directSupertypes_eq_nil rfl
    | declared name args ih =>
      refine isGrounded_declared (acc_of_finite (u.finite_leads name) fun n hn => ?_)
        fun d x i a hd hx hi ha => ?_
      · rcases reflTransGen_iff_eq_or_transGen.mp hn with rfl | hn
        · exact hacyclic _ args .refl
        · obtain ⟨args', hreach⟩ := exists_reachesProperly_of_leads hn args
          exact hacyclic n args' hreach.to_reflTransGen
      · have hreach := hx.reachesProperly hd args
        rw [TypeRef.substitute_variable hi ha] at hreach
        exact ih a (List.mem_of_getElem? ha) fun other inner hother =>
          hacyclic other inner (hreach.to_reflTransGen.trans hother)

theorem IsGrounded.finite_supertypes (h : u.IsGrounded t) : {s | u.Reaches t s}.Finite := by
  induction h with
  | intro t _ ih =>
    have hsteps : {s | u.Extends t s}.Finite := List.finite_toSet (u.directSupertypes t)
    refine ((hsteps.biUnion ih).insert t).subset fun s hs => ?_
    rcases ReflTransGen.cases_head hs with rfl | ⟨next, hnext, hrest⟩
    · exact Set.mem_insert _ _
    · exact Set.mem_insert_of_mem _ (Set.mem_biUnion hnext hrest)

/-- All walks end exactly if there are finitely many supertypes, none of them its own. -/
theorem isGrounded_iff_finite :
    u.IsGrounded t ↔
      {s | u.Reaches t s}.Finite ∧ ∀ s, u.Reaches t s → ¬ u.ReachesProperly s s := by
  constructor
  · intro h
    exact ⟨h.finite_supertypes, fun s hs => (h.of_reaches hs).not_reachesProperly_self⟩
  · rintro ⟨hfinite, hacyclic⟩
    exact acc_of_finite (hfinite.subset fun s hs => TransGen.to_reflTransGen hs) hacyclic

end TypedPrefs.Universe
