import Mathlib.Data.List.Basic

/-!
# Candidates

Declared elements come one after the other. One that repeats a name or fails its own checks is no
candidate. A candidate takes all of its names, also if some of them are taken already and it is
dropped for that. So whether a candidate is kept depends on the candidates before it, and not on
which of them were kept.

A candidate that is dropped leaves nothing behind if no later one has a name that it took anew. If
that holds of all that are dropped, each taken name is a fixed one or belongs to a candidate that
was kept, and whatever is dropped could as well be missing.
-/

namespace TypedPrefs.Blueprint

/-! ## Names that are taken -/

section Kept

variable {α β : Type} {names : α → List β} {fits : α → Bool} {fixed fixed' : List β}
variable {as before after : List α} {a b : α} {x : β}

/-- A name is a fixed one, or one of the candidates before has it. -/
def Taken (names : α → List β) (fixed : List β) (before : List α) (x : β) : Prop :=
  x ∈ fixed ∨ ∃ b ∈ before, x ∈ names b

/-- A candidate is kept behind others: it fits, and none of its names is taken. -/
def IsKept (names : α → List β) (fits : α → Bool) (fixed : List β) (before : List α) (a : α) :
    Prop :=
  fits a = true ∧ ∀ x ∈ names a, ¬ Taken names fixed before x

/-- One of the candidates has a name that is taken. -/
def Collides (names : α → List β) (fixed : List β) (as : List α) (a : α) (x : β) : Prop :=
  ∃ before after, as = before ++ a :: after ∧ x ∈ names a ∧ Taken names fixed before x

/-- No candidate that is dropped takes a name anew that a later one has. -/
def LeavesNothing (names : α → List β) (fits : α → Bool) (fixed : List β) (as : List α) : Prop :=
  ∀ before a after, as = before ++ a :: after → ¬ IsKept names fits fixed before a →
    ∀ x ∈ names a, ¬ Taken names fixed before x → ∀ b ∈ after, x ∉ names b

/-- The candidates that are kept, where the names in `fixed` are not free. -/
def keptFrom [DecidableEq β] (names : α → List β) (fits : α → Bool) : List β → List α → List α
  | _, [] => []
  | fixed, a :: rest =>
    if fits a = true ∧ ∀ x ∈ names a, x ∉ fixed then
      a :: keptFrom names fits (names a ++ fixed) rest
    else keptFrom names fits (names a ++ fixed) rest

theorem taken_nil_iff : Taken names fixed [] x ↔ x ∈ fixed := by
  simp [Taken]

theorem taken_cons_iff :
    Taken names fixed (a :: before) x ↔ Taken names (names a ++ fixed) before x := by
  simp only [Taken, List.mem_append, List.mem_cons, exists_eq_or_imp]
  tauto

theorem isKept_nil_iff :
    IsKept names fits fixed [] a ↔ fits a = true ∧ ∀ x ∈ names a, x ∉ fixed := by
  simp only [IsKept, taken_nil_iff]

theorem isKept_cons_iff :
    IsKept names fits fixed (b :: before) a ↔ IsKept names fits (names b ++ fixed) before a := by
  simp only [IsKept, taken_cons_iff]

theorem not_collides_nil : ¬ Collides names fixed [] a x := by
  rintro ⟨before, after, heq, -⟩
  simp at heq

/-- A collision of the first candidate is one with the fixed names; the others find the names of
the first one taken as well. -/
theorem collides_cons_iff :
    Collides names fixed (b :: as) a x ↔
      (a = b ∧ x ∈ names b ∧ x ∈ fixed) ∨ Collides names (names b ++ fixed) as a x := by
  constructor
  · rintro ⟨before, after, heq, hx, htaken⟩
    cases before with
    | nil =>
      obtain ⟨rfl, -⟩ := List.cons.inj heq
      exact .inl ⟨rfl, hx, taken_nil_iff.mp htaken⟩
    | cons head before =>
      obtain ⟨rfl, rfl⟩ := List.cons.inj heq
      exact .inr ⟨before, after, rfl, hx, taken_cons_iff.mp htaken⟩
  · rintro (⟨rfl, hx, hfixed⟩ | ⟨before, after, rfl, hx, htaken⟩)
    · exact ⟨[], as, rfl, hx, taken_nil_iff.mpr hfixed⟩
    · exact ⟨b :: before, after, rfl, hx, taken_cons_iff.mpr htaken⟩

theorem leavesNothing_cons_iff :
    LeavesNothing names fits fixed (a :: as) ↔
      (¬ (fits a = true ∧ ∀ x ∈ names a, x ∉ fixed) →
        ∀ x ∈ names a, x ∉ fixed → ∀ b ∈ as, x ∉ names b) ∧
      LeavesNothing names fits (names a ++ fixed) as := by
  constructor
  · intro h
    refine ⟨fun hdropped x hx hnew => ?_, ?_⟩
    · exact h [] a as rfl (mt isKept_nil_iff.mp hdropped) x hx (mt taken_nil_iff.mp hnew)
    · rintro before b after rfl hdropped x hx hnew
      exact h (a :: before) b after rfl (mt isKept_cons_iff.mp hdropped) x hx
        (mt taken_cons_iff.mp hnew)
  · rintro ⟨hhead, htail⟩ before b after heq hdropped x hx hnew
    cases before with
    | nil =>
      obtain ⟨rfl, rfl⟩ := List.cons.inj heq
      exact hhead (mt isKept_nil_iff.mpr hdropped) x hx (mt taken_nil_iff.mpr hnew)
    | cons head before =>
      obtain ⟨rfl, rfl⟩ := List.cons.inj heq
      exact htail before b after rfl (mt isKept_cons_iff.mpr hdropped) x hx
        (mt taken_cons_iff.mpr hnew)

/-- It can be checked whether anything is left behind. -/
def decideLeavesNothing [DecidableEq β] (names : α → List β) (fits : α → Bool) :
    (fixed : List β) → (as : List α) → Decidable (LeavesNothing names fits fixed as)
  | _, [] => .isTrue fun _ _ _ heq => by simp at heq
  | fixed, a :: as =>
    have := decideLeavesNothing names fits (names a ++ fixed) as
    decidable_of_iff' _ leavesNothing_cons_iff

instance [DecidableEq β] : Decidable (LeavesNothing names fits fixed as) :=
  decideLeavesNothing names fits fixed as

/-- Only which names are fixed counts, not how often or in which order. -/
theorem collides_congr (h : ∀ y, y ∈ fixed ↔ y ∈ fixed') :
    Collides names fixed as a x ↔ Collides names fixed' as a x := by
  simp only [Collides, Taken, h]

variable [DecidableEq β]

/-- Which candidates are kept depends only on which of their names are fixed. -/
theorem keptFrom_congr (h : ∀ a ∈ as, ∀ x ∈ names a, x ∈ fixed ↔ x ∈ fixed') :
    keptFrom names fits fixed as = keptFrom names fits fixed' as := by
  induction as generalizing fixed fixed' with
  | nil => rfl
  | cons a rest ih =>
    have hhead : (∀ x ∈ names a, x ∉ fixed) ↔ ∀ x ∈ names a, x ∉ fixed' :=
      forall₂_congr fun x hx => not_congr (h a List.mem_cons_self x hx)
    have hrest : keptFrom names fits (names a ++ fixed) rest =
        keptFrom names fits (names a ++ fixed') rest := by
      refine ih fun b hb x hx => ?_
      rw [List.mem_append, List.mem_append, h b (List.mem_cons_of_mem _ hb) x hx]
    simp only [keptFrom, hhead, hrest]

/-- A candidate is kept exactly if it is behind those before it. -/
theorem mem_keptFrom_iff :
    a ∈ keptFrom names fits fixed as ↔
      ∃ before after, as = before ++ a :: after ∧ IsKept names fits fixed before a := by
  induction as generalizing fixed with
  | nil => simp [keptFrom]
  | cons b rest ih =>
    have hsplit : (∃ before after, b :: rest = before ++ a :: after ∧
          IsKept names fits fixed before a) ↔
        (a = b ∧ IsKept names fits fixed [] b) ∨ ∃ before after, rest = before ++ a :: after ∧
          IsKept names fits (names b ++ fixed) before a := by
      constructor
      · rintro ⟨before, after, heq, hkept⟩
        cases before with
        | nil =>
          obtain ⟨rfl, -⟩ := List.cons.inj heq
          exact .inl ⟨rfl, hkept⟩
        | cons head before =>
          obtain ⟨rfl, rfl⟩ := List.cons.inj heq
          exact .inr ⟨before, after, rfl, isKept_cons_iff.mp hkept⟩
      · rintro (⟨rfl, hkept⟩ | ⟨before, after, rfl, hkept⟩)
        · exact ⟨[], rest, rfl, hkept⟩
        · exact ⟨b :: before, after, rfl, isKept_cons_iff.mpr hkept⟩
    rw [hsplit, isKept_nil_iff, ← ih, keptFrom]
    split
    · next hkept => rw [List.mem_cons, and_iff_left hkept]
    · next hdropped => rw [or_iff_right fun h => hdropped h.2]

/-- Candidates with the same names are kept alike. -/
theorem keptFrom_map (f : α → α) (hnames : ∀ a, names (f a) = names a)
    (hfits : ∀ a, fits (f a) = fits a) (fixed : List β) (as : List α) :
    keptFrom names fits fixed (as.map f) = (keptFrom names fits fixed as).map f := by
  induction as generalizing fixed with
  | nil => rfl
  | cons a rest ih =>
    simp only [List.map_cons, keptFrom, hnames, hfits, ih]
    split
    · rfl
    · rfl

/-! ## Names that are left behind -/

/-- Where those that are dropped leave nothing behind, a taken name is a fixed one or belongs to a
candidate that is kept. -/
theorem LeavesNothing.fixed_or_kept (h : LeavesNothing names fits fixed (before ++ a :: after))
    (hx : x ∈ names a) (htaken : Taken names fixed before x) :
    x ∈ fixed ∨ ∃ b ∈ before, b ∈ keptFrom names fits fixed (before ++ a :: after) ∧
      x ∈ names b := by
  rcases htaken with hfixed | ⟨b, hb, hxb⟩
  · exact .inl hfixed
  by_cases hfixed : x ∈ fixed
  · exact .inl hfixed
  -- the first candidate that has the name took it anew, so it must have been kept
  obtain ⟨first, hfirst⟩ : ∃ first, before.find? (fun b => decide (x ∈ names b)) = some first :=
    Option.isSome_iff_exists.mp (List.find?_isSome.mpr ⟨b, hb, by simpa using hxb⟩)
  obtain ⟨hxfirst, p, q, rfl, hp⟩ := List.find?_eq_some_iff_append.mp hfirst
  have hnew : ¬ Taken names fixed p x := by
    rintro (hmem | ⟨b', hb', hxb'⟩)
    · exact hfixed hmem
    · have hnone := hp b' hb'
      simp [hxb'] at hnone
  have hxfirst : x ∈ names first := by simpa using hxfirst
  by_cases hkept : IsKept names fits fixed p first
  · exact .inr ⟨first, by simp, mem_keptFrom_iff.mpr ⟨p, q ++ a :: after, by simp, hkept⟩, hxfirst⟩
  · exact absurd hx (h p first (q ++ a :: after) (by simp) hkept x hxfirst hnew a (by simp))

/-- Those that are dropped leave nothing behind exactly if each name with which a candidate collides
is a fixed one or belongs to an earlier candidate that is kept. -/
theorem leavesNothing_iff {earlier : α → α → Prop} (horder : as.Pairwise earlier) :
    LeavesNothing names fits fixed as ↔ ∀ a x, Collides names fixed as a x →
      x ∈ fixed ∨ ∃ b ∈ keptFrom names fits fixed as, earlier b a ∧ x ∈ names b := by
  constructor
  · rintro h a x ⟨before, after, rfl, hx, htaken⟩
    refine (h.fixed_or_kept hx htaken).imp_right ?_
    rintro ⟨b, hb, hkept, hxb⟩
    exact ⟨b, hkept, (List.pairwise_append.mp horder).2.2 b hb a List.mem_cons_self, hxb⟩
  · rintro h before a after rfl hdropped x hx hnew b hb hxb
    obtain ⟨p, q, rfl⟩ := List.append_of_mem hb
    have hcollides : Collides names fixed (before ++ a :: (p ++ b :: q)) b x :=
      ⟨before ++ a :: p, q, by simp, hxb, .inr ⟨a, by simp, hx⟩⟩
    rcases h b x hcollides with hfixed | ⟨b', hb', -, hxb'⟩
    · exact hnew (.inl hfixed)
    obtain ⟨first, second, heq, hkept⟩ := mem_keptFrom_iff.mp hb'
    -- a kept candidate with the name can stand neither before, nor at, nor behind the dropped one
    rcases List.append_eq_append_iff.mp heq with ⟨more, rfl, hmore⟩ | ⟨more, rfl, hmore⟩
    · cases more with
      | nil =>
        obtain ⟨rfl, -⟩ := List.cons.inj hmore
        exact hdropped (by simpa using hkept)
      | cons c more =>
        obtain ⟨rfl, -⟩ := List.cons.inj hmore
        exact hkept.2 x hxb' (.inr ⟨a, by simp, hx⟩)
    · cases more with
      | nil =>
        obtain ⟨rfl, -⟩ := List.cons.inj hmore
        exact hdropped (by simpa using hkept)
      | cons c more =>
        obtain ⟨rfl, -⟩ := List.cons.inj hmore
        exact hnew (.inr ⟨b', by simp, hxb'⟩)

/-- Without a candidate that is dropped and leaves nothing behind, the same others are kept. -/
theorem keptFrom_without (h : LeavesNothing names fits fixed (before ++ a :: after))
    (hdropped : ¬ IsKept names fits fixed before a) :
    keptFrom names fits fixed (before ++ after) =
      keptFrom names fits fixed (before ++ a :: after) := by
  induction before generalizing fixed with
  | nil =>
    rw [List.nil_append, List.nil_append, keptFrom, if_neg (mt isKept_nil_iff.mpr hdropped)]
    refine keptFrom_congr fun b hb x hx => ⟨List.mem_append_right _, fun hmem => ?_⟩
    refine (List.mem_append.mp hmem).elim (fun hxa => ?_) id
    by_contra hnew
    exact h [] a after rfl hdropped x hxa (mt taken_nil_iff.mp hnew) b hb hx
  | cons b before ih =>
    rw [List.cons_append] at h
    have hrest := ih (leavesNothing_cons_iff.mp h).2 (mt isKept_cons_iff.mpr hdropped)
    rw [List.cons_append, List.cons_append, keptFrom, keptFrom, hrest]

end Kept

/-! ## Candidates among declared elements -/

section Declared

variable {σ α β : Type} {name : σ → String} {check : Nat → σ → Option α} {label : α → String}
variable {position : α → Nat} {unplaced : α → α} {seen : List String} {ss : List σ}

/-- The candidates among declared elements, from a position on: those that do not repeat a name and
pass the check. -/
def candidatesFrom (name : σ → String) (check : Nat → σ → Option α) :
    Nat → List σ → List String → List α
  | _, [], _ => []
  | index, s :: rest, seen =>
    if name s ∈ seen then candidatesFrom name check (index + 1) rest seen
    else (check index s).toList ++ candidatesFrom name check (index + 1) rest (name s :: seen)

/-- What passes a check keeps its name and its position, and the check looks at the position for
nothing else. -/
structure IsCheck (name : σ → String) (check : Nat → σ → Option α) (label : α → String)
    (position : α → Nat) (unplaced : α → α) : Prop where
  label_eq : ∀ i s a, check i s = some a → label a = name s
  position_eq : ∀ i s a, check i s = some a → position a = i
  unplaced_eq : ∀ i j s, (check i s).map unplaced = (check j s).map unplaced

namespace IsCheck

variable (h : IsCheck name check label position unplaced)

include h

/-- A candidate stands at its position or behind it, and its name is new. -/
theorem of_mem {index : Nat} {a : α} (ha : a ∈ candidatesFrom name check index ss seen) :
    index ≤ position a ∧ label a ∉ seen := by
  induction ss generalizing index seen with
  | nil => cases ha
  | cons s rest ih =>
    rw [candidatesFrom] at ha
    split at ha
    · exact (ih ha).imp_left Nat.le_of_succ_le
    · next hnew =>
      rcases List.mem_append.mp ha with ha | ha
      · have hs : check index s = some a := Option.mem_toList.mp ha
        rw [h.label_eq index s a hs, h.position_eq index s a hs]
        exact ⟨Nat.le_refl index, hnew⟩
      · obtain ⟨hle, hfresh⟩ := ih ha
        exact ⟨Nat.le_of_succ_le hle, fun hmem => hfresh (List.mem_cons_of_mem _ hmem)⟩

/-- The candidates stand in the order of their positions, and no two have one name. -/
theorem pairwise (index : Nat) (ss : List σ) (seen : List String) :
    (candidatesFrom name check index ss seen).Pairwise fun a b =>
      position a < position b ∧ label a ≠ label b := by
  induction ss generalizing index seen with
  | nil => exact .nil
  | cons s rest ih =>
    rw [candidatesFrom]
    split
    · exact ih (index + 1) seen
    · cases hs : check index s with
      | none => exact ih (index + 1) (name s :: seen)
      | some a =>
        refine List.pairwise_cons.mpr ⟨fun b hb => ?_, ih (index + 1) (name s :: seen)⟩
        obtain ⟨hle, hfresh⟩ := h.of_mem hb
        rw [h.label_eq index s a hs, h.position_eq index s a hs]
        exact ⟨hle, fun heq => hfresh (heq ▸ List.mem_cons_self)⟩

/-- Without the elements of one name there are the other candidates, at other positions. -/
theorem candidatesFrom_filter (n : String) (i j : Nat) (ss : List σ) (seen seen' : List String)
    (hseen : ∀ m, m ≠ n → (m ∈ seen ↔ m ∈ seen')) :
    (candidatesFrom name check j (ss.filter (name · ≠ n)) seen').map unplaced =
      ((candidatesFrom name check i ss seen).filter (label · ≠ n)).map unplaced := by
  induction ss generalizing i j seen seen' with
  | nil => rfl
  | cons s rest ih =>
    by_cases hname : name s = n
    · rw [List.filter_cons_of_neg (by simpa using hname), candidatesFrom]
      split
      · exact ih (i + 1) j seen seen' hseen
      · have hskip : ((check i s).toList.filter (label · ≠ n)) = [] := by
          refine List.filter_eq_nil_iff.mpr fun a ha => ?_
          rw [h.label_eq i s a (Option.mem_toList.mp ha), hname]
          simp
        rw [List.filter_append, hskip, List.nil_append]
        refine ih (i + 1) j (name s :: seen) seen' fun m hm => ?_
        rw [List.mem_cons, or_iff_right (hname ▸ hm)]
        exact hseen m hm
    · rw [List.filter_cons_of_pos (by simpa using hname), candidatesFrom, candidatesFrom]
      by_cases hmem : name s ∈ seen
      · rw [if_pos hmem, if_pos ((hseen _ hname).mp hmem)]
        exact ih (i + 1) (j + 1) seen seen' hseen
      · have hstay : ((check i s).toList.filter (label · ≠ n)) = (check i s).toList := by
          refine List.filter_eq_self.mpr fun a ha => ?_
          rw [h.label_eq i s a (Option.mem_toList.mp ha)]
          simpa using hname
        have hmoved : (check j s).toList.map unplaced = (check i s).toList.map unplaced := by
          rw [← Option.toList_map, ← Option.toList_map, h.unplaced_eq j i s]
        have hrest := ih (i + 1) (j + 1) (name s :: seen) (name s :: seen')
          fun m hm => by rw [List.mem_cons, List.mem_cons, hseen m hm]
        rw [if_neg hmem, if_neg (mt (hseen _ hname).mpr hmem), List.filter_append, hstay,
          List.map_append, List.map_append, hmoved, hrest]

/-- If those that are dropped leave nothing behind, one of them could as well be missing, along
with what repeats its name: the same others are kept. -/
theorem keptFrom_filter [DecidableEq β] {names : α → List β} {fits : α → Bool} {fixed : List β}
    (hnames : ∀ a, names (unplaced a) = names a) (hfits : ∀ a, fits (unplaced a) = fits a)
    (hleaves : LeavesNothing names fits fixed (candidatesFrom name check 0 ss []))
    {a : α} (ha : a ∈ candidatesFrom name check 0 ss [])
    (hdropped : a ∉ keptFrom names fits fixed (candidatesFrom name check 0 ss [])) :
    (keptFrom names fits fixed
        (candidatesFrom name check 0 (ss.filter (name · ≠ label a)) [])).map unplaced =
      (keptFrom names fits fixed (candidatesFrom name check 0 ss [])).map unplaced := by
  have hlabels := (h.pairwise 0 ss []).imp And.right
  have hsame := h.candidatesFrom_filter (label a) 0 0 ss [] [] fun _ _ => Iff.rfl
  rw [← keptFrom_map unplaced hnames hfits, hsame, keptFrom_map unplaced hnames hfits]
  obtain ⟨before, after, heq⟩ := List.append_of_mem ha
  rw [heq] at hlabels hleaves hdropped ⊢
  have hout : ¬ IsKept names fits fixed before a := fun hkept =>
    hdropped (mem_keptFrom_iff.mpr ⟨before, after, rfl, hkept⟩)
  -- the candidate is the only one of its name
  obtain ⟨-, hafter, hbefore⟩ := List.pairwise_append.mp hlabels
  have hothers : (before ++ a :: after).filter (label · ≠ label a) = before ++ after := by
    rw [List.filter_append, List.filter_cons_of_neg (by simp), List.filter_eq_self.mpr,
      List.filter_eq_self.mpr]
    · intro b hb
      simpa using ((List.pairwise_cons.mp hafter).1 b hb).symm
    · intro b hb
      simpa using hbefore b hb a List.mem_cons_self
  rw [hothers, keptFrom_without hleaves hout]

end IsCheck

end Declared

end TypedPrefs.Blueprint
