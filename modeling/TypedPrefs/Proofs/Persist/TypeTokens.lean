import TypedPrefs.Proofs.Persist.Bounds

/-!
# Type tokens and the constructors that take them

A serializer that is made from a type token always gets that of the declared type, while its
constructor is only looked at for the name of what it takes. A serializer that got the declared type
as its argument has a constructor for the token if the constructor takes that of the parameter.
Where arguments are written, or there are no parameters, the constructor may take another one.
-/

namespace TypedPrefs

namespace TypeRef

/-! ## Parameters that become a given type -/

/-- A type in which no variable is bound stays as it is. -/
theorem instantiate_eq_self {bindings : List (String × TypeRef)} {t : TypeRef}
    (h : ∀ x, .variable x ∈ t.parts → bindings.lookup x = none) : t.instantiate bindings = t := by
  induction t with
  | declared name args ih =>
    have hargs : args.map (instantiate bindings) = args.map id := by
      refine List.map_congr_left fun a ha => ih a ha fun x hx => h x ?_
      exact mem_parts_trans hx (mem_parts_of_mem_args ha)
    rw [instantiate_declared, hargs, List.map_id]
  | parameter x => rw [instantiate, h x (self_mem_parts _), Option.getD_none]
  | _ => rfl

/-- With a single parameter, only the parameter itself becomes its argument, and the argument if the
parameter does not occur in it. -/
theorem substitute_eq_arg_iff {p t : TypeRef} {x : String} :
    p.substitute [x] [t] = t ↔ p = .variable x ∨ p = t ∧ .variable x ∉ t.parts := by
  have hvariable : (TypeRef.variable x).substitute [x] [t] = t := by
    simp [substitute, instantiate]
  have hself : ∀ s : TypeRef, .variable x ∉ s.parts → s.substitute [x] [t] = s := by
    intro s hs
    refine instantiate_eq_self fun y hy => ?_
    have hne : y ≠ x := fun heq => hs (heq ▸ hy)
    simpa using hne
  constructor
  · intro heq
    by_cases hoccurs : .variable x ∈ p.parts
    · refine .inl (Decidable.byContradiction fun hne => ?_)
      -- the argument would be an inner part of itself
      have hinner : (TypeRef.variable x).substitute [x] [t] ∈ (p.substitute [x] [t]).innerParts :=
        instantiate_mem_innerParts (mem_innerParts_of_ne hoccurs (Ne.symm hne))
      rw [hvariable, heq] at hinner
      exact Nat.lt_irrefl _ (length_parts_lt hinner)
    · rw [hself p hoccurs] at heq
      exact .inr ⟨heq, heq ▸ hoccurs⟩
  · rintro (rfl | ⟨rfl, hoccurs⟩)
    · exact hvariable
    · exact hself p hoccurs

end TypeRef

namespace Binding

open Universe

/-! ## Constructors -/

/-- One of the constructors takes the given type token, for the arguments of the type, or a raw
one. -/
def TakesToken (d : TypeDecl) (args : List TypeRef) (token : TypeRef) : Prop :=
  [TypeRef.named Builtin.typeToken] ∈ d.constructors ∨
    ∃ p, [.declared Builtin.typeToken [p]] ∈ d.constructors ∧
      p.substitute d.paramNames args = token

/-- For its only argument a type takes the token if a constructor takes that of the parameter, or of
just that argument. -/
theorem takesToken_singleton_iff {d : TypeDecl} {param : TypeParam} (hparams : d.params = [param])
    (t : TypeRef) :
    TakesToken d [t] t ↔
      [TypeRef.named Builtin.typeToken] ∈ d.constructors ∨
      [.declared Builtin.typeToken [.variable param.name]] ∈ d.constructors ∨
      [.declared Builtin.typeToken [t]] ∈ d.constructors ∧ .variable param.name ∉ t.parts := by
  have hnames : d.paramNames = [param.name] := by rw [TypeDecl.paramNames, hparams]; rfl
  simp only [TakesToken, hnames, TypeRef.substitute_eq_arg_iff]
  refine or_congr_right ⟨?_, ?_⟩
  · rintro ⟨p, hp, rfl | ⟨rfl, hoccurs⟩⟩
    · exact .inl hp
    · exact .inr ⟨hp, hoccurs⟩
  · rintro (hp | ⟨hp, hoccurs⟩)
    · exact ⟨_, hp, .inl rfl⟩
    · exact ⟨t, hp, .inr ⟨rfl, hoccurs⟩⟩

/-- A type without parameters or arguments takes the token if a constructor takes just that. -/
theorem takesToken_iff_of_eq_nil {d : TypeDecl} {args : List TypeRef}
    (hnone : d.params = [] ∨ args = []) (t : TypeRef) :
    TakesToken d args t ↔
      [TypeRef.named Builtin.typeToken] ∈ d.constructors ∨
      [.declared Builtin.typeToken [t]] ∈ d.constructors := by
  have hzip : d.paramNames.zip args = [] := by
    rcases hnone with hparams | rfl
    · rw [TypeDecl.paramNames, hparams, List.map_nil, List.zip_nil_left]
    · exact List.zip_nil_right
  have hsubstitute : ∀ p : TypeRef, p.substitute d.paramNames args = p := by
    intro p
    rw [TypeRef.substitute, hzip]
    exact TypeRef.instantiate_eq_self fun _ _ => rfl
  simp only [TakesToken, hsubstitute, exists_eq_right]

/-- **When a constructor takes the token that it gets.** A serializer that is made from a type token
gets that of the declared type, and one of its constructors takes tokens. If it was completed, one
takes this token exactly if it takes a raw one, that of the parameter, or that of just this type.
If it is used as it was given, nothing checks whether one takes the token for the arguments that are
written; where there are none, or no parameters, one does exactly if it takes a raw one or that of
just this type. -/
theorem token_taken_iff {u : Universe} {depth : Nat} {declared serializer token : TypeRef}
    {given : Option TypeRef} {b : Binding} (h : resolve u depth declared given = .ok b)
    (hconstruction : b.construction = .fromToken serializer token) :
    token = declared.boxed ∧
    ∃ name args d, serializer = .declared name args ∧ u.get? name = some d ∧
      (∃ param, [param] ∈ d.constructors ∧ param.hasName Builtin.typeToken = true) ∧
      (∀ param, IsRawGeneric u (chosenSerializer given) name param →
        args = [token] ∧
        (TakesToken d args token ↔
          [TypeRef.named Builtin.typeToken] ∈ d.constructors ∨
          [.declared Builtin.typeToken [.variable param.name]] ∈ d.constructors ∨
          [.declared Builtin.typeToken [token]] ∈ d.constructors ∧
            .variable param.name ∉ token.parts)) ∧
      ((∀ param, ¬ IsRawGeneric u (chosenSerializer given) name param) →
        chosenSerializer given = .declared name args ∧
        (d.params = [] ∨ args = [] →
          (TakesToken d args token ↔
            [TypeRef.named Builtin.typeToken] ∈ d.constructors ∨
            [.declared Builtin.typeToken [token]] ∈ d.constructors))) := by
  rcases plain_or_serialized_of_resolve h with hplain | ⟨s, source, target, hserialized⟩
  · rw [hplain.construction] at hconstruction
    cases hconstruction
  have hoffered := hserialized.construction
  rw [hconstruction] at hoffered
  obtain ⟨name, args, d, heq, hd⟩ := hoffered.exists_declared
  cases hoffered with
  | @fromToken name' d' param hname hd' hmem htoken =>
    rw [heq] at hname
    obtain rfl : name = name' := Option.some.inj hname
    obtain rfl : d = d' := Option.some.inj (hd.symm.trans hd')
    refine ⟨rfl, name, args, d, heq, hd, ⟨param, hmem, htoken⟩, fun own hraw => ?_, fun hnone => ?_⟩
    · rcases hserialized.fits with hcompletion | ⟨hnone, -⟩
      · obtain ⟨-, rfl, -⟩ := hcompletion.exists_param heq hd
        obtain ⟨-, d', hd', hparams⟩ := hraw
        obtain rfl : d = d' := Option.some.inj (hd.symm.trans hd')
        exact ⟨rfl, takesToken_singleton_iff hparams _⟩
      · exact absurd hraw (hnone name own)
    · rcases hserialized.fits with hcompletion | ⟨-, hchosen, -⟩
      · obtain ⟨hgiven, -, own, hparams, -⟩ := hcompletion.exists_param heq hd
        exact absurd ⟨hgiven, d, hd, hparams⟩ (hnone own)
      · exact ⟨hchosen.symm.trans heq, fun hempty => takesToken_iff_of_eq_nil hempty _⟩

/-- A raw serializer of numbers has a constructor for the token that it gets. -/
theorem token_taken_iff_numberSerializer :
    resolve numberUniverse 5 (.primitive .int) (some (TypeRef.named "NumberSerializer")) =
        .ok numberBinding ∧
      numberBinding.construction =
        .fromToken (.declared "NumberSerializer" [TypeRef.named "Integer"])
          (TypeRef.named "Integer") ∧
      TakesToken numberSerializer [TypeRef.named "Integer"] (TypeRef.named "Integer") := by
  obtain ⟨-, name, args, d, heq, hd, -, hcompleted, -⟩ := token_taken_iff resolve_numberUniverse rfl
  obtain ⟨rfl, rfl⟩ := TypeRef.declared.inj heq
  obtain rfl : numberSerializer = d := Option.some.inj hd
  obtain ⟨-, hiff⟩ := hcompleted _ ⟨rfl, numberSerializer, rfl, rfl⟩
  exact ⟨resolve_numberUniverse, rfl, hiff.mpr (.inr (.inl List.mem_cons_self))⟩

/-- A serializer of lists that is made from the type token of their elements. -/
def listSerializer : TypeDecl :=
  { name := "ListSerializer"
    kind := .plain
    params := [⟨"T", [TypeRef.named Builtin.number]⟩]
    supertypes :=
      [.declared Builtin.serializer
        [.declared "List" [.variable "T"], TypeRef.named Builtin.string]]
    constructors := [[.declared Builtin.typeToken [.variable "T"]]] }

/-- The built-in types, lists and their serializer. -/
def listUniverse : Universe :=
  builtin.extend [⟨"List", .interface, [⟨"E", []⟩], [], []⟩, listSerializer]

theorem isMade_listUniverse : listUniverse.IsMade :=
  have hdeclare : builtin.declareAll? [⟨"List", .interface, [⟨"E", []⟩], [], []⟩, listSerializer] =
    some listUniverse := rfl
  IsMade.builtin.declareAll? hdeclare

/-- A list of integers. -/
def integers : TypeRef := .declared "List" [TypeRef.named "Integer"]

/-- Its serializer, with the argument written. -/
def integersSerializer : TypeRef := .declared "ListSerializer" [TypeRef.named "Integer"]

/-- The serializer gets the token of a list, while its constructor takes that of an integer. Nothing
is reported. -/
theorem token_not_taken_integersSerializer :
    listUniverse.IsMade ∧ listUniverse.problems = [] ∧ listUniverse.misfit? integers = none ∧
      listUniverse.misfit? integersSerializer = none ∧
      listUniverse.get? "ListSerializer" = some listSerializer ∧
      ∃ b, resolve listUniverse 5 integers (some integersSerializer) = .ok b ∧
        b.construction = .fromToken integersSerializer integers ∧
        ¬ TakesToken listSerializer [TypeRef.named "Integer"] integers := by
  refine ⟨isMade_listUniverse, rfl, rfl, rfl, rfl, _, rfl, rfl, ?_⟩
  rintro (hraw | ⟨p, hp, heq⟩)
  · exact absurd hraw (by decide)
  · -- the only constructor takes the token of the parameter
    simp only [listSerializer, List.mem_singleton, List.cons.injEq, and_true,
      TypeRef.declared.injEq, true_and] at hp
    rw [hp] at heq
    exact absurd heq (by decide)

end Binding

end TypedPrefs
