import TypedPrefs.Proofs.Types.Termination

/-!
# Walks and plain searches

A walk enters a type only if no type of the same printed form has been entered before. The search
that it stands for enters every type as often as it comes to it. As long as the printed form tells
the types apart that are reached, both give the same answer, and a walk misses nothing. A raw type
leaves variables in its supertypes, and a variable prints like a declared type: then a walk can
miss what it looks for.
-/

namespace TypedPrefs.Universe

open Relation

variable {α : Type} {u : Universe} {skip : TypeRef → Bool}

/-! ## Searches that enter every type they come to -/

/-- The first answer of a search from each type of a list. -/
def firstOf (search : TypeRef → Option (Option α)) : List TypeRef → Option (Option α)
  | [] => some none
  | t :: rest =>
    match search t with
    | none => none
    | some (some a) => some (some a)
    | some none => firstOf search rest

/-- The search from a type in depth-first order of declaration, at most so deep. Some types are
answered for at once; from the others it goes on from their direct supertypes. -/
def search (u : Universe) (skip : TypeRef → Bool) (answer? : TypeRef → Option (Option α)) :
    Nat → TypeRef → Option (Option α)
  | 0, _ => none
  | depth + 1, t =>
    match answer? t with
    | some answer => some answer
    | none => firstOf (search u skip answer? depth) ((u.directSupertypes t).filter (!skip ·))

/-- The types that a search for `sup` answers for at once. -/
def subtypeAnswer? (sup t : TypeRef) : Option (Option Unit) :=
  if t = sup then some (some ())
  else
    match t with
    | .declared _ _ => if isObject sup then some (some ()) else none
    | .variable _ => some (if isObject sup then some () else none)
    | _ => some none

/-- The types that a search for a serializer capability answers for at once. -/
def serializerAnswer? (t : TypeRef) : Option (Option TypeRef) :=
  if t.hasName Builtin.serializer then some (some t) else none

/-- The exposed and the stored type of the capability that a search finds, if it ends. -/
def searchArguments? (u : Universe) (depth : Nat) (t : TypeRef) :
    Option (Option (TypeRef × TypeRef)) :=
  (u.search isObject serializerAnswer? depth t).map fun answer =>
    match answer.map TypeRef.args with
    | some [source, target] => some (source, target)
    | _ => none

/-- A walk answers at once where the search does and enters the other types. -/
structure Follows (u : Universe) (skip : TypeRef → Bool) (answer? : TypeRef → Option (Option α))
    (walk : Nat → List String → TypeRef → Trail α) : Prop where
  limit : ∀ entered t, walk 0 entered t = none
  answered : ∀ t answer, answer? t = some answer →
    ∀ depth entered, walk (depth + 1) entered t = some (answer, entered)
  goesOn : ∀ t, answer? t = none →
    ∀ depth entered, walk (depth + 1) entered t = u.enter (walk depth) skip entered t

theorem subtypeWalk_succ (u : Universe) (sup : TypeRef) (depth : Nat) (entered : List String)
    (t : TypeRef) : u.subtypeWalk sup (depth + 1) entered t =
      match subtypeAnswer? sup t with
      | some answer => some (answer, entered)
      | none => u.enter (u.subtypeWalk sup depth) (fun _ => false) entered t := by
  by_cases heq : t = sup
  · simp only [subtypeWalk, subtypeAnswer?, if_pos heq]
  · cases t with
    | declared name args =>
      simp only [subtypeWalk, subtypeAnswer?, if_neg heq]
      by_cases hobject : isObject sup = true
      · simp only [if_pos hobject]
      · simp only [if_neg hobject]
    | _ => simp only [subtypeWalk, subtypeAnswer?, if_neg heq]

theorem follows_subtypeWalk (u : Universe) (sup : TypeRef) :
    u.Follows (fun _ => false) (subtypeAnswer? sup) (u.subtypeWalk sup) where
  limit _ _ := rfl
  answered t answer h depth entered := by rw [subtypeWalk_succ, h]
  goesOn t h depth entered := by rw [subtypeWalk_succ, h]

theorem follows_serializerWalk (u : Universe) :
    u.Follows isObject serializerAnswer? u.serializerWalk where
  limit _ _ := rfl
  answered t answer h depth entered := by
    rw [serializerAnswer?] at h
    split at h
    · next hname =>
      cases h
      rw [serializerWalk, if_pos hname]
    · cases h
  goesOn t h depth entered := by
    rw [serializerAnswer?] at h
    split at h
    · cases h
    · next hname => rw [serializerWalk, if_neg hname]

variable {answer? : TypeRef → Option (Option α)}
variable {walk : Nat → List String → TypeRef → Trail α} {entered after : List String}

/-! ## Deeper searches -/

theorem firstOf_of_imp {search search' : TypeRef → Option (Option α)}
    (h : ∀ t r, search t = some r → search' t = some r) {ts : List TypeRef} {r : Option α}
    (hr : firstOf search ts = some r) : firstOf search' ts = some r := by
  induction ts with
  | nil => exact hr
  | cons t rest ih =>
    rw [firstOf] at hr ⊢
    cases hsearch : search t with
    | none => simp [hsearch] at hr
    | some answer =>
      rw [h _ _ hsearch]
      cases answer with
      | none =>
        simp only [hsearch] at hr
        exact ih hr
      | some a => simpa only [hsearch] using hr

theorem search_succ {depth : Nat} {t : TypeRef} {r : Option α}
    (h : u.search skip answer? depth t = some r) :
    u.search skip answer? (depth + 1) t = some r := by
  induction depth generalizing t r with
  | zero => cases h
  | succ depth ih =>
    rw [search] at h ⊢
    cases hanswer : answer? t with
    | some answer => simpa only [hanswer] using h
    | none =>
      simp only [hanswer] at h ⊢
      exact firstOf_of_imp (fun _ _ => ih) h

/-- What a search finds it also finds with more depth. -/
theorem search_mono {depth depth' : Nat} (hle : depth ≤ depth') {t : TypeRef} {r : Option α}
    (h : u.search skip answer? depth t = some r) : u.search skip answer? depth' t = some r := by
  induction hle with
  | refl => exact h
  | step _ ih => exact search_succ ih

/-- Two searches that end give the same answer. -/
theorem search_unique {depth depth' : Nat} {t : TypeRef} {r r' : Option α}
    (h : u.search skip answer? depth t = some r) (h' : u.search skip answer? depth' t = some r') :
    r = r' := by
  rcases Nat.le_total depth depth' with hle | hle
  · exact Option.some.inj ((search_mono hle h).symm.trans h')
  · exact Option.some.inj (h.symm.trans (search_mono hle h'))

/-! ## What a walk without an answer leaves behind -/

/-- A type that a walk has dealt with: it has no answer, or it has been entered. -/
def Settled (answer? : TypeRef → Option (Option α)) (entered : List String) (t : TypeRef) : Prop :=
  answer? t = some none ∨ answer? t = none ∧ t.display ∈ entered

theorem Settled.of_subset {t : TypeRef} (h : Settled answer? entered t)
    (hsubset : entered ⊆ after) : Settled answer? after t :=
  h.imp_right fun ⟨hanswer, hentered⟩ => ⟨hanswer, hsubset hentered⟩

/-- A walk without an answer keeps what it has entered, and has dealt with the supertypes of each
type of `types` that it has entered on its way. -/
structure Explores (u : Universe) (skip : TypeRef → Bool) (answer? : TypeRef → Option (Option α))
    (types : Set TypeRef) (before after : List String) : Prop where
  subset : before ⊆ after
  settled : ∀ s ∈ types, s.display ∈ after → s.display ∉ before →
    ∀ r, u.Extends s r → skip r = false → Settled answer? after r

variable {types : Set TypeRef}

theorem Explores.refl (entered : List String) :
    u.Explores skip answer? types entered entered where
  subset := List.Subset.refl _
  settled _ _ hafter hbefore := absurd hafter hbefore

theorem Explores.trans {before middle : List String}
    (h : u.Explores skip answer? types before middle)
    (h' : u.Explores skip answer? types middle after) :
    u.Explores skip answer? types before after where
  subset := List.Subset.trans h.subset h'.subset
  settled s hs hafter hbefore r hr hskip := by
    by_cases hmiddle : s.display ∈ middle
    · exact (h.settled s hs hmiddle hbefore r hr hskip).of_subset h'.subset
    · exact h'.settled s hs hafter hmiddle r hr hskip

theorem explores_firstAnswer {walk : List String → TypeRef → Trail α} {ts : List TypeRef}
    (hwalk : ∀ t ∈ ts, ∀ before after, walk before t = some (none, after) →
      u.Explores skip answer? types before after ∧ Settled answer? after t)
    (h : firstAnswer walk entered ts = some (none, after)) :
    u.Explores skip answer? types entered after ∧ ∀ t ∈ ts, Settled answer? after t := by
  induction ts generalizing entered with
  | nil =>
    cases h
    exact ⟨.refl _, nofun⟩
  | cons t rest ih =>
    rw [firstAnswer] at h
    split at h
    · cases h
    · cases h
    · next middle hfirst =>
      obtain ⟨hexplores, hsettled⟩ := hwalk t List.mem_cons_self _ _ hfirst
      obtain ⟨hexplores', hrest⟩ := ih (fun s hs => hwalk s (List.mem_cons_of_mem _ hs)) h
      refine ⟨hexplores.trans hexplores', fun s hs => ?_⟩
      rcases List.mem_cons.mp hs with rfl | hs
      · exact hsettled.of_subset hexplores'.subset
      · exact hrest s hs

/-- Entering a type whose printed form is new: that form stands for no other of the types, so its
supertypes are the ones that have to be dealt with. -/
theorem explores_enter {walk : List String → TypeRef → Trail α} {t : TypeRef}
    (hdistinct : types.InjOn TypeRef.display) (ht : t ∈ types)
    (hclosed : ∀ s, u.Extends t s → s ∈ types)
    (hwalk : ∀ s ∈ types, ∀ before after, walk before s = some (none, after) →
      u.Explores skip answer? types before after ∧ Settled answer? after s)
    (h : u.enter walk skip entered t = some (none, after)) :
    u.Explores skip answer? types entered after ∧ t.display ∈ after := by
  rw [enter] at h
  split at h
  · next hentered =>
    cases h
    exact ⟨.refl _, by simpa using hentered⟩
  · obtain ⟨hexplores, hsupertypes⟩ := explores_firstAnswer
      (fun s hs => hwalk s (hclosed s (List.mem_of_mem_filter hs))) h
    have hafter : t.display ∈ after := hexplores.subset List.mem_cons_self
    refine ⟨⟨fun x hx => hexplores.subset (List.mem_cons_of_mem _ hx), ?_⟩, hafter⟩
    intro s hs hsafter hnew r hr hskip
    by_cases heq : s.display = t.display
    · obtain rfl : s = t := hdistinct hs ht heq
      exact hsupertypes r (List.mem_filter.mpr ⟨hr, by simp [hskip]⟩)
    · refine hexplores.settled s hs hsafter ?_ r hr hskip
      simpa [heq] using hnew

theorem Follows.explores (hwalk : u.Follows skip answer? walk)
    (hdistinct : types.InjOn TypeRef.display)
    (hclosed : ∀ t ∈ types, ∀ s, u.Extends t s → s ∈ types) {depth : Nat} {t : TypeRef}
    (ht : t ∈ types) (h : walk depth entered t = some (none, after)) :
    u.Explores skip answer? types entered after ∧ Settled answer? after t := by
  induction depth generalizing entered after t with
  | zero =>
    rw [hwalk.limit] at h
    cases h
  | succ depth ih =>
    cases hanswer : answer? t with
    | some answer =>
      rw [hwalk.answered t answer hanswer] at h
      cases h
      exact ⟨.refl _, .inl hanswer⟩
    | none =>
      rw [hwalk.goesOn t hanswer] at h
      obtain ⟨hexplores, hafter⟩ := explores_enter hdistinct ht (hclosed t ht)
        (fun s hs before after' hfound => ih hs hfound) h
      exact ⟨hexplores, .inr ⟨hanswer, hafter⟩⟩

/-- **Nothing is missed**: a walk without an answer has dealt with all types that are reached, if
those that it need not enter have no supertypes. -/
theorem Follows.settled_of_reaches (hwalk : u.Follows (fun _ => false) answer? walk)
    (hleaf : ∀ t s, answer? t = some none → ¬ u.Extends t s) {depth : Nat} {a s : TypeRef}
    (hdistinct : {s | u.Reaches a s}.InjOn TypeRef.display)
    (h : walk depth [] a = some (none, after)) (hs : u.Reaches a s) : Settled answer? after s := by
  obtain ⟨hexplores, hsettled⟩ :=
    hwalk.explores hdistinct (fun t ht s hts => ht.tail hts) .refl h
  induction hs with
  | refl => exact hsettled
  | tail hreach hstep ih =>
    rcases ih with hnone | ⟨-, hafter⟩
    · exact absurd hstep (hleaf _ _ hnone)
    · exact hexplores.settled _ hreach hafter List.not_mem_nil _ hstep rfl

/-! ## Subtypes -/

/-- `Object` is found at once from the types that are under it. -/
theorem subtypeAnswer?_of_isUnderObject {sup t : TypeRef} (hobject : isObject sup = true)
    (hunder : isUnderObject t = true) : subtypeAnswer? sup t = some (some ()) := by
  by_cases heq : t = sup
  · exact if_pos heq
  · cases t with
    | declared name args => simp only [subtypeAnswer?, if_neg heq, if_pos hobject]
    | «variable» name => simp only [subtypeAnswer?, if_neg heq, if_pos hobject]
    | _ => cases hunder

theorem not_extends_of_subtypeAnswer? {sup t s : TypeRef}
    (h : subtypeAnswer? sup t = some none) : ¬ u.Extends t s := by
  intro hstep
  obtain ⟨name, args, d, rfl, -⟩ := hstep.source
  unfold subtypeAnswer? at h
  by_cases heq : TypeRef.declared name args = sup
  · simp [heq] at h
  · simp only [if_neg heq] at h
    split at h <;> cases h

/-- A walk to a type that it has not found is not missing it. -/
theorem not_isSubtype_of_subtypeWalk {depth : Nat} {a b : TypeRef}
    (hdistinct : {s | u.Reaches a s}.InjOn TypeRef.display)
    (h : u.subtypeWalk b depth [] a = some (none, after)) : ¬ u.IsSubtype a b := by
  have hsettled : ∀ s, u.Reaches a s → Settled (subtypeAnswer? b) after s := fun s hs =>
    (follows_subtypeWalk u b).settled_of_reaches
      (fun _ _ => not_extends_of_subtypeAnswer?) hdistinct h hs
  have hreach : ¬ u.Reaches a b := by
    intro hreach
    have hanswer : subtypeAnswer? b b = some (some ()) := if_pos rfl
    rcases hsettled b hreach with hnone | ⟨hnone, -⟩ <;> simp [hanswer] at hnone
  rintro (rfl | ⟨hobject, hunder⟩ | hproper)
  · exact hreach .refl
  · have hanswer := subtypeAnswer?_of_isUnderObject hobject hunder
    rcases hsettled a .refl with hnone | ⟨hnone, -⟩ <;> simp [hanswer] at hnone
  · exact hreach hproper.to_reflTransGen

/-- Where a walk ends among types that the printed form tells apart, it tells all subtypes. -/
theorem isSubtype?_eq_some_true_iff {depth : Nat} {a b : TypeRef} {answer : Bool}
    (hdistinct : {s | u.Reaches a s}.InjOn TypeRef.display)
    (h : u.isSubtype? depth a b = some answer) : answer = true ↔ u.IsSubtype a b := by
  refine ⟨fun htrue => isSubtype_of_isSubtype? (htrue ▸ h), fun hsub => ?_⟩
  obtain ⟨⟨found, after⟩, hwalk, rfl⟩ := Option.map_eq_some_iff.mp h
  cases found with
  | some a => rfl
  | none => exact absurd hsub (not_isSubtype_of_subtypeWalk hdistinct hwalk)

/-- Subtypes are transitive as long as `Object` has no supertypes. -/
theorem IsSubtype.trans {a b c : TypeRef}
    (hobject : u.directSupertypes (TypeRef.named Builtin.object) = [])
    (hab : u.IsSubtype a b) (hbc : u.IsSubtype b c) : u.IsSubtype a c := by
  rcases hab with rfl | ⟨hb, hunder⟩ | hreach
  · exact hbc
  · obtain rfl : b = TypeRef.named Builtin.object := by simpa [isObject] using hb
    rcases hbc with rfl | ⟨hc, -⟩ | hproper
    · exact .inr (.inl ⟨hb, hunder⟩)
    · exact .inr (.inl ⟨hc, hunder⟩)
    · obtain ⟨s, hstep, -⟩ := TransGen.head'_iff.mp hproper
      simp [Extends, hobject] at hstep
  · exact .of_reaches hreach.to_reflTransGen hbc

/-! ## Walks and searches give the same answer -/

/-- A type from which the search ends without an answer. -/
def Exhausted (u : Universe) (skip : TypeRef → Bool) (answer? : TypeRef → Option (Option α))
    (t : TypeRef) : Prop :=
  ∃ depth, u.search skip answer? depth t = some none

/-- Of the types that a walk has entered, those that the search at this depth could still answer
for have no answer. The others are on the way to where the walk is. -/
def OpenOrExhausted (u : Universe) (skip : TypeRef → Bool) (answer? : TypeRef → Option (Option α))
    (types : Set TypeRef) (depth : Nat) (entered : List String) : Prop :=
  ∀ s ∈ types, s.display ∈ entered →
    u.search skip answer? depth s = none ∨ u.Exhausted skip answer? s

/-- What a walk gives where the search gives `r`: the same, and if that is no answer, then there is
none either for what it has entered. -/
def Agrees (u : Universe) (skip : TypeRef → Bool) (answer? : TypeRef → Option (Option α))
    (types : Set TypeRef) (entered : List String) (r : Option α) (trail : Trail α) : Prop :=
  ∀ r' after, trail = some (r', after) → r' = r ∧
    (r = none → ∀ s ∈ types, s.display ∈ after →
      s.display ∈ entered ∨ u.Exhausted skip answer? s)

theorem Exhausted.eq_none {depth : Nat} {t : TypeRef} {r : Option α}
    (h : u.Exhausted skip answer? t) (hr : u.search skip answer? depth t = some r) : r = none :=
  h.elim fun _ hnone => search_unique hr hnone

/-- What is open at some depth is open at a smaller one. -/
theorem OpenOrExhausted.pred {depth : Nat}
    (h : u.OpenOrExhausted skip answer? types (depth + 1) entered) :
    u.OpenOrExhausted skip answer? types depth entered := by
  intro s hs hentered
  refine (h s hs hentered).imp_left fun hnone => ?_
  by_contra hsome
  obtain ⟨r, hr⟩ := Option.ne_none_iff_exists'.mp hsome
  rw [search_succ hr] at hnone
  cases hnone

theorem openOrExhausted_nil {depth : Nat} :
    u.OpenOrExhausted skip answer? types depth [] := fun _ _ hentered =>
  absurd hentered List.not_mem_nil

/-- A walk without an answer adds only exhausted types. -/
theorem OpenOrExhausted.of_agrees {depth : Nat}
    (h : u.OpenOrExhausted skip answer? types depth entered)
    (hafter : ∀ s ∈ types, s.display ∈ after → s.display ∈ entered ∨ u.Exhausted skip answer? s) :
    u.OpenOrExhausted skip answer? types depth after := fun s hs hsafter =>
  (hafter s hs hsafter).elim (h s hs) .inr

theorem agrees_firstAnswer {walk : List String → TypeRef → Trail α} {depth : Nat}
    {ts : List TypeRef} {r : Option α}
    (hopen : u.OpenOrExhausted skip answer? types depth entered)
    (hwalk : ∀ t ∈ ts, ∀ before, u.OpenOrExhausted skip answer? types depth before →
      ∀ r, u.search skip answer? depth t = some r →
        u.Agrees skip answer? types before r (walk before t))
    (h : firstOf (u.search skip answer? depth) ts = some r) :
    u.Agrees skip answer? types entered r (firstAnswer walk entered ts) := by
  induction ts generalizing entered with
  | nil =>
    cases h
    intro r' after htrail
    cases htrail
    exact ⟨rfl, fun _ s _ hs => .inl hs⟩
  | cons t rest ih =>
    rw [firstOf] at h
    intro r' after htrail
    rw [firstAnswer] at htrail
    cases hsearch : u.search skip answer? depth t with
    | none => simp [hsearch] at h
    | some answer =>
      have hagrees := hwalk t List.mem_cons_self entered hopen answer hsearch
      cases hfirst : walk entered t with
      | none => simp [hfirst] at htrail
      | some found =>
        obtain ⟨found, middle⟩ := found
        obtain ⟨rfl, hmiddle⟩ := hagrees found middle hfirst
        cases found with
        | some a =>
          simp only [hsearch, hfirst] at h htrail
          cases h
          cases htrail
          refine ⟨rfl, fun hnone => ?_⟩
          cases hnone
        | none =>
          simp only [hsearch, hfirst] at h htrail
          obtain ⟨rfl, hrest⟩ := ih (hopen.of_agrees (hmiddle rfl))
            (fun s hs => hwalk s (List.mem_cons_of_mem _ hs)) h r' after htrail
          refine ⟨rfl, fun hnone s hs hsafter => ?_⟩
          exact (hrest hnone s hs hsafter).elim (hmiddle rfl s hs) .inr

/-- Entering a type from which the search ends, but not at this depth yet. -/
theorem agrees_enter {walk : List String → TypeRef → Trail α} {depth : Nat} {t : TypeRef}
    {r : Option α} (hdistinct : types.InjOn TypeRef.display) (ht : t ∈ types)
    (hclosed : ∀ s, u.Extends t s → s ∈ types) (hanswer : answer? t = none)
    (hearly : u.search skip answer? depth t = none)
    (hopen : u.OpenOrExhausted skip answer? types (depth + 1) entered)
    (hwalk : ∀ s ∈ types, ∀ before, u.OpenOrExhausted skip answer? types depth before →
      ∀ r, u.search skip answer? depth s = some r →
        u.Agrees skip answer? types before r (walk before s))
    (h : u.search skip answer? (depth + 1) t = some r) :
    u.Agrees skip answer? types entered r (u.enter walk skip entered t) := by
  intro r' after htrail
  rw [enter] at htrail
  split at htrail
  · next hentered =>
    cases htrail
    -- `t` is not on the way to itself, as the search from it ends: it is exhausted
    rcases hopen t ht (by simpa using hentered) with hnone | hexhausted
    · rw [hnone] at h
      cases h
    · exact ⟨(hexhausted.eq_none h).symm, fun _ s _ hs => .inl hs⟩
  · have hself {s : TypeRef} (hs : s ∈ types) (heq : s.display = t.display) : s = t :=
      hdistinct hs ht heq
    have hopen' : u.OpenOrExhausted skip answer? types depth (t.display :: entered) := by
      intro s hs hentered
      rcases List.mem_cons.mp hentered with heq | hentered
      · exact .inl (hself hs heq ▸ hearly)
      · exact hopen.pred s hs hentered
    have hfirst : firstOf (u.search skip answer? depth)
        ((u.directSupertypes t).filter (!skip ·)) = some r := by
      simpa only [search, hanswer] using h
    obtain ⟨rfl, hafter⟩ := agrees_firstAnswer hopen'
      (fun s hs => hwalk s (hclosed s (List.mem_of_mem_filter hs))) hfirst r' after htrail
    refine ⟨rfl, fun hnone s hs hsafter => ?_⟩
    rcases hafter hnone s hs hsafter with hbefore | hexhausted
    · rcases List.mem_cons.mp hbefore with heq | hbefore
      · exact .inr (hself hs heq ▸ ⟨depth + 1, hnone ▸ h⟩)
      · exact .inl hbefore
    · exact .inr hexhausted

/-- A walk agrees with a search that ends. The induction is on the depth of the search, where only
the least depth at which it ends leaves the type itself open. -/
theorem Follows.agrees (hwalk : u.Follows skip answer? walk)
    (hdistinct : types.InjOn TypeRef.display)
    (hclosed : ∀ t ∈ types, ∀ s, u.Extends t s → s ∈ types) {depth limit : Nat} {t : TypeRef}
    {r : Option α} (ht : t ∈ types) (hopen : u.OpenOrExhausted skip answer? types depth entered)
    (h : u.search skip answer? depth t = some r) :
    u.Agrees skip answer? types entered r (walk limit entered t) := by
  induction depth generalizing limit entered t r with
  | zero => cases h
  | succ depth ih =>
    cases hearly : u.search skip answer? depth t with
    | some early =>
      obtain rfl : early = r := search_unique hearly h
      exact ih ht hopen.pred hearly
    | none =>
      cases limit with
      | zero =>
        intro r' after htrail
        rw [hwalk.limit] at htrail
        cases htrail
      | succ limit =>
        cases hanswer : answer? t with
        | some answer =>
          rw [hwalk.answered t answer hanswer]
          obtain rfl : answer = r := by simpa [search, hanswer] using h
          intro r' after htrail
          cases htrail
          exact ⟨rfl, fun _ s _ hs => .inl hs⟩
        | none =>
          rw [hwalk.goesOn t hanswer]
          exact agrees_enter hdistinct ht (hclosed t ht) hanswer hearly hopen
            (fun s hs before hbefore r hr => ih hs hbefore hr) h

/-- Where both end, the walk gives what the search gives. -/
theorem Follows.eq_of_search (hwalk : u.Follows skip answer? walk) {depth limit : Nat}
    {a : TypeRef} {r r' : Option α} (hdistinct : {s | u.Reaches a s}.InjOn TypeRef.display)
    (h : u.search skip answer? depth a = some r) (h' : walk limit [] a = some (r', after)) :
    r' = r :=
  (hwalk.agrees hdistinct (fun _ ht _ hts => ht.tail hts) .refl openOrExhausted_nil h
    r' after h').1

theorem serializerArguments?_eq_of_search {depth limit : Nat} {a : TypeRef}
    {r r' : Option (TypeRef × TypeRef)} (hdistinct : {s | u.Reaches a s}.InjOn TypeRef.display)
    (h : u.searchArguments? depth a = some r) (h' : u.serializerArguments? limit a = some r') :
    r' = r := by
  obtain ⟨found, hfound, rfl⟩ := Option.map_eq_some_iff.mp h
  obtain ⟨⟨found', after⟩, hfound', rfl⟩ := Option.map_eq_some_iff.mp h'
  obtain rfl := (follows_serializerWalk u).eq_of_search hdistinct hfound hfound'
  rfl

end TypedPrefs.Universe
