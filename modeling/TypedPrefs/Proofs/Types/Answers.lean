import TypedPrefs.Proofs.Types.Display
import TypedPrefs.Proofs.Types.Search
import TypedPrefs.Types.Wellformed

/-!
# What is answered about supertypes

The questions about supertypes are answered by walks that enter no printed form twice. For a type
that reaches finitely many types with different printed forms, the answers are those of the relation
and of the plain search. Printed forms differ unless two bare names coincide; a raw type can bring
that about, and then the answers are wrong.
-/

namespace TypedPrefs.Universe

open Relation

variable {u : Universe} {a : TypeRef}

/-! ## Universes that can be made -/

/-- A universe that is made from the built-in types by declaring further types one by one. -/
inductive IsMade : Universe → Prop
  | builtin : IsMade builtin
  | declare {u u' : Universe} (d : TypeDecl) : IsMade u → u.declare? d = some u' → IsMade u'

theorem contains_eq_false_iff {name : String} :
    u.contains name = false ↔ u.get? name = none := by
  rw [contains, SortedMap.contains, get?, Option.isSome_eq_false_iff, Option.isNone_iff_eq_none]

/-- A declaration is put at its name, which was not taken. -/
theorem declare?_eq_some_iff {u' : Universe} {d : TypeDecl} :
    u.declare? d = some u' ↔ u.contains d.name = false ∧ ⟨u.decls.put d.name d⟩ = u' := by
  rw [declare?]
  cases u.contains d.name <;> simp

theorem get?_put (u : Universe) (d : TypeDecl) (name : String) :
    get? ⟨u.decls.put d.name d⟩ name = if d.name = name then some d else u.get? name :=
  SortedMap.get?_put ..

/-- A declaration leaves all names alone that were taken before. -/
theorem get?_of_declare? {u' : Universe} {d d' : TypeDecl} {name : String}
    (h : u.declare? d = some u') (hname : u.get? name = some d') : u'.get? name = some d' := by
  obtain ⟨hfree, rfl⟩ := declare?_eq_some_iff.mp h
  have hne : d.name ≠ name := by
    rintro rfl
    rw [contains_eq_false_iff, hname] at hfree
    cases hfree
  rw [get?_put, if_neg hne, hname]

/-- The built-in declarations stay as they are. -/
theorem IsMade.get?_builtin (h : u.IsMade) {name : String} {d : TypeDecl}
    (hd : Universe.builtin.get? name = some d) : u.get? name = some d := by
  induction h with
  | builtin => exact hd
  | declare _ _ hdeclare ih => exact get?_of_declare? hdeclare ih

theorem IsMade.get?_object (h : u.IsMade) :
    u.get? Builtin.object = some (plainClass Builtin.object) :=
  h.get?_builtin rfl

/-- Nothing is above `Object`. -/
theorem IsMade.directSupertypes_object (h : u.IsMade) :
    u.directSupertypes (TypeRef.named Builtin.object) = [] := by
  simp [directSupertypes, TypeRef.named, h.get?_object, plainClass, TypeDecl.allSupertypes]

/-! ## Types with different printed forms -/

/-- The parts of the types that are reached. -/
def reachedParts (u : Universe) (a : TypeRef) : Set TypeRef :=
  {p | ∃ s, u.Reaches a s ∧ p ∈ s.parts}

/-- Types that can be read back from their printed forms have different ones. -/
theorem display_injOn_of_legible (h : TypeRef.Legible (u.reachedParts a)) :
    {s | u.Reaches a s}.InjOn TypeRef.display := by
  refine h.display_injOn.mono fun s hs => ?_
  exact ⟨s, hs, TypeRef.self_mem_parts s⟩

/-- All types that are reached are among some as soon as those are closed under supertypes. -/
theorem mem_of_reaches {ts : List TypeRef} (ha : a ∈ ts)
    (hclosed : ∀ t ∈ ts, ∀ s ∈ u.directSupertypes t, s ∈ ts) {s : TypeRef} (hs : u.Reaches a s) :
    s ∈ ts := by
  induction hs with
  | refl => exact ha
  | tail _ hstep ih => exact hclosed _ ih _ hstep

instance (u : Universe) (a b : TypeRef) : Decidable (u.Extends a b) :=
  inferInstanceAs (Decidable (b ∈ u.directSupertypes a))

/-! ## Answers -/

theorem serializerArguments?_mono {depth depth' : Nat} (hle : depth ≤ depth')
    {r : Option (TypeRef × TypeRef)} (h : u.serializerArguments? depth a = some r) :
    u.serializerArguments? depth' a = some r := by
  obtain ⟨found, hwalk, rfl⟩ := Option.map_eq_some_iff.mp h
  rw [serializerArguments?, u.isWalk_serializerWalk.mono hle hwalk]
  rfl

theorem isSubtype?_mono {depth depth' : Nat} (hle : depth ≤ depth') {b : TypeRef} {answer : Bool}
    (h : u.isSubtype? depth a b = some answer) : u.isSubtype? depth' a b = some answer := by
  obtain ⟨found, hwalk, rfl⟩ := Option.map_eq_some_iff.mp h
  rw [isSubtype?, (u.isWalk_subtypeWalk b).mono hle hwalk]
  rfl

/-- Among finitely many types with different printed forms a type is told to be a subtype exactly if
it is one. -/
theorem exists_isSubtype?_iff (hfinite : {s | u.Reaches a s}.Finite)
    (hdistinct : {s | u.Reaches a s}.InjOn TypeRef.display) (b : TypeRef) :
    ∃ answer, (∀ depth, hfinite.toFinset.card < depth → u.isSubtype? depth a b = some answer) ∧
      (answer = true ↔ u.IsSubtype a b) := by
  obtain ⟨answer, hanswer⟩ := exists_isSubtype? hfinite b
  exact ⟨answer, hanswer,
    isSubtype?_eq_some_true_iff hdistinct (hanswer _ (Nat.lt_succ_self _))⟩

/-- Among finitely many types with different printed forms the serializer arguments are those that
the plain search finds. -/
theorem exists_serializerArguments?_eq (hfinite : {s | u.Reaches a s}.Finite)
    (hdistinct : {s | u.Reaches a s}.InjOn TypeRef.display) :
    ∃ found, (∀ depth, hfinite.toFinset.card < depth →
        u.serializerArguments? depth a = some found) ∧
      ∀ steps r, u.searchArguments? steps a = some r → found = r := by
  obtain ⟨found, hfound⟩ := exists_serializerArguments? hfinite
  exact ⟨found, hfound, fun steps r hr =>
    serializerArguments?_eq_of_search hdistinct hr (hfound _ (Nat.lt_succ_self _))⟩

/-- If finitely many types are reached, and names tell them and their parts apart, all answers are
right from some depth on. -/
theorem answers_of_legible (hfinite : {s | u.Reaches a s}.Finite)
    (hlegible : TypeRef.Legible (u.reachedParts a)) :
    ∃ bound, ∀ depth, bound < depth →
      (∀ b, ∃ answer, u.isSubtype? depth a b = some answer ∧ (answer = true ↔ u.IsSubtype a b)) ∧
      ∀ steps r, u.searchArguments? steps a = some r → u.serializerArguments? depth a = some r := by
  have hdistinct := display_injOn_of_legible hlegible
  refine ⟨hfinite.toFinset.card, fun depth hdepth => ⟨fun b => ?_, fun steps r hr => ?_⟩⟩
  · obtain ⟨answer, hanswer, hiff⟩ := exists_isSubtype?_iff hfinite hdistinct b
    exact ⟨answer, hanswer depth hdepth, hiff⟩
  · obtain ⟨found, hfound, hsearch⟩ := exists_serializerArguments?_eq hfinite hdistinct
    exact hsearch steps r hr ▸ hfound depth hdepth

/-- **Walks miss nothing** among finitely many types with different printed forms: from some depth
on, a type is told to be a subtype exactly if it is one, the serializer arguments are those that
the plain search finds if it ends, and subtypes are told transitively. -/
theorem walks_miss_nothing (u : Universe) (a : TypeRef) (hfinite : {s | u.Reaches a s}.Finite)
    (hdistinct : {s | u.Reaches a s}.InjOn TypeRef.display) :
    ∃ bound,
      (∀ b, ∃ answer, (∀ depth, bound < depth → u.isSubtype? depth a b = some answer) ∧
        (answer = true ↔ u.IsSubtype a b)) ∧
      (∃ found, (∀ depth, bound < depth → u.serializerArguments? depth a = some found) ∧
        ∀ steps r, u.searchArguments? steps a = some r → found = r) ∧
      (u.IsMade → ∀ b c depth depth', bound < depth → u.isSubtype? depth a b = some true →
        u.isSubtype? depth' b c = some true → u.isSubtype? depth a c = some true) := by
  refine ⟨hfinite.toFinset.card, exists_isSubtype?_iff hfinite hdistinct,
    exists_serializerArguments?_eq hfinite hdistinct,
    fun hmade b c depth depth' hdepth hab hbc => ?_⟩
  obtain ⟨answer, hanswer, hiff⟩ := exists_isSubtype?_iff hfinite hdistinct c
  have hac : u.IsSubtype a c := (isSubtype_of_isSubtype? hab).trans
    hmade.directSupertypes_object (isSubtype_of_isSubtype? hbc)
  rw [hanswer depth hdepth, hiff.mpr hac]

/-- A class that extends the given types. -/
def subclass (name : String) (supertypes : List TypeRef) : TypeDecl :=
  { plainClass name with supertypes }

/-- The capability of a serializer from `Integer` to `String`. -/
def integerSerializer : TypeRef :=
  .declared Builtin.serializer [TypeRef.named "Integer", TypeRef.named Builtin.string]

/-- The universe after several declarations. -/
def declareAll? (u : Universe) : List TypeDecl → Option Universe
  | [] => some u
  | d :: ds => (u.declare? d).bind (declareAll? · ds)

theorem IsMade.declareAll? (h : u.IsMade) {ds : List TypeDecl} {u' : Universe}
    (hds : u.declareAll? ds = some u') : u'.IsMade := by
  induction ds generalizing u with
  | nil =>
    cases hds
    exact h
  | cons d ds ih =>
    obtain ⟨v, hv, hrest⟩ := Option.bind_eq_some_iff.mp hds
    exact ih (h.declare d hv) hrest

/-- The universe with further declarations, whose names are not taken. -/
def extend (u : Universe) (ds : List TypeDecl) : Universe :=
  ⟨ds.foldl (fun decls d => decls.put d.name d) u.decls⟩

/-- Four types in a diamond, with a capability on the side that is walked last. -/
def diamondDecls : List TypeDecl :=
  [subclass "Top" [], subclass "Left" [TypeRef.named "Top"],
    subclass "Right" [TypeRef.named "Top", integerSerializer],
    subclass "Bottom" [TypeRef.named "Left", TypeRef.named "Right"]]

/-- The built-in types and the diamond. -/
def diamond : Universe := builtin.extend diamondDecls

theorem isMade_diamond : diamond.IsMade :=
  have hdeclare : builtin.declareAll? diamondDecls = some diamond := rfl
  IsMade.builtin.declareAll? hdeclare

/-- The walks from the bottom of a diamond come to its top twice and lose nothing. -/
theorem walks_miss_nothing_diamond : diamond.IsMade ∧
    {s | diamond.Reaches (TypeRef.named "Bottom") s}.Finite ∧
    {s | diamond.Reaches (TypeRef.named "Bottom") s}.InjOn TypeRef.display ∧
    ∃ bound, ∀ depth, bound < depth →
      diamond.isSubtype? depth (TypeRef.named "Bottom") integerSerializer = some true ∧
      diamond.serializerArguments? depth (TypeRef.named "Bottom") =
        some (some (TypeRef.named "Integer", TypeRef.named Builtin.string)) := by
  have hmem : ∀ s, diamond.Reaches (TypeRef.named "Bottom") s → s ∈ [TypeRef.named "Bottom",
      TypeRef.named "Left", TypeRef.named "Right", TypeRef.named "Top", integerSerializer] :=
    fun s => mem_of_reaches List.mem_cons_self (by decide +kernel)
  have hfinite := (List.finite_toSet _).subset hmem
  have hdistinct : {s | diamond.Reaches (TypeRef.named "Bottom") s}.InjOn TypeRef.display :=
    fun s hs t ht heq =>
      List.inj_on_of_nodup_map (by decide +kernel) (hmem s hs) (hmem t ht) heq
  refine ⟨isMade_diamond, hfinite, hdistinct, ?_⟩
  obtain ⟨bound, hsub, ⟨found, hfound, hsearch⟩, -⟩ :=
    walks_miss_nothing diamond (TypeRef.named "Bottom") hfinite hdistinct
  obtain ⟨answer, hanswer, hiff⟩ := hsub integerSerializer
  refine ⟨bound, fun depth hdepth => ⟨?_, ?_⟩⟩
  · have hfive : diamond.isSubtype? 5 (TypeRef.named "Bottom") integerSerializer = some true := by
      decide +kernel
    rw [hanswer depth hdepth, hiff.mpr (isSubtype_of_isSubtype? hfive)]
  · exact (hfound depth hdepth).trans (congrArg some (hsearch 5 _ (by decide +kernel)))

/-! ## Where walks miss something -/

/-- `Raw` extends `Alias` of its parameter, and `Both` extends `Raw` without an argument: the
parameter is left over. It prints like the class of its name, of which `Both` extends `Alias`. -/
def rawDecls : List TypeDecl :=
  [subclass "T" [integerSerializer],
    { subclass "Alias" [.variable "P"] with params := [⟨"P", []⟩] },
    { subclass "Raw" [.declared "Alias" [.variable "T"]] with params := [⟨"T", []⟩] },
    subclass "Both" [TypeRef.named "Raw", .declared "Alias" [TypeRef.named "T"]]]

/-- The built-in types and those of which one is extended raw. -/
def rawUniverse : Universe := builtin.extend rawDecls

theorem isMade_rawUniverse : rawUniverse.IsMade :=
  have hdeclare : builtin.declareAll? rawDecls = some rawUniverse := rfl
  IsMade.builtin.declareAll? hdeclare

/-- One raw supertype is enough for walks to miss a supertype and the capability that the plain
search finds, and for subtypes not to be transitive. Nothing is wrong with the declarations. -/
theorem walks_miss_supertypes : ∃ u a b c, IsMade u ∧ u.problems = [] ∧
    {s | u.Reaches a s}.Finite ∧ u.ReachesProperly a c ∧
    (∀ depth, 5 ≤ depth → u.isSubtype? depth a b = some true ∧
      u.isSubtype? depth b c = some true ∧ u.isSubtype? depth a c = some false) ∧
    u.searchArguments? 5 a =
      some (some (TypeRef.named "Integer", TypeRef.named Builtin.string)) ∧
    ∀ depth, 5 ≤ depth → u.serializerArguments? depth a = some none := by
  have hmem : ∀ s, rawUniverse.Reaches (TypeRef.named "Both") s → s ∈ [TypeRef.named "Both",
      TypeRef.named "Raw", .declared "Alias" [.variable "T"], .variable "T",
      .declared "Alias" [TypeRef.named "T"], TypeRef.named "T", integerSerializer] :=
    fun s => mem_of_reaches List.mem_cons_self (by decide +kernel)
  -- the way that the walk does not take, because `Alias<T>` looks as if it had been entered
  have halias :
      rawUniverse.Extends (TypeRef.named "Both") (.declared "Alias" [TypeRef.named "T"]) := by
    decide +kernel
  have hclass : rawUniverse.Extends (.declared "Alias" [TypeRef.named "T"]) (TypeRef.named "T") :=
    by decide +kernel
  have hserializer : rawUniverse.Extends (TypeRef.named "T") integerSerializer := by
    decide +kernel
  refine ⟨rawUniverse, TypeRef.named "Both", .declared "Alias" [TypeRef.named "T"],
    integerSerializer, isMade_rawUniverse, by decide +kernel,
    (List.finite_toSet _).subset hmem,
    .head halias (.head hclass (.single hserializer)), fun depth hdepth => ⟨?_, ?_, ?_⟩, ?_, ?_⟩
  · exact isSubtype?_mono hdepth (by decide +kernel)
  · exact isSubtype?_mono hdepth (by decide +kernel)
  · exact isSubtype?_mono hdepth (by decide +kernel)
  · decide +kernel
  · exact fun depth hdepth => serializerArguments?_mono hdepth (by decide +kernel)

end TypedPrefs.Universe
