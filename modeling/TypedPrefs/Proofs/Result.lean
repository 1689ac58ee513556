/-!
# Results that may be faults

How a computation that gives a value was made up, so that a chain of steps can be taken apart step
by step.
-/

namespace TypedPrefs

variable {ε α β : Type}

/-- A chain gives a value exactly if its first step does and the others do for that value. -/
theorem bind_eq_ok_iff {x : Except ε α} {f : α → Except ε β} {b : β} :
    x >>= f = .ok b ↔ ∃ a, x = .ok a ∧ f a = .ok b := by
  cases x with
  | error e => simp [bind, Except.bind]
  | ok a => simp [bind, Except.bind]

/-- A chain fails exactly if its first step does or the others do for what that gives. -/
theorem bind_eq_error_iff {x : Except ε α} {f : α → Except ε β} {e : ε} :
    x >>= f = .error e ↔ x = .error e ∨ ∃ a, x = .ok a ∧ f a = .error e := by
  cases x with
  | error e' => simp [bind, Except.bind]
  | ok a => simp [bind, Except.bind]

/-- Two chains with the same first step agree if the others agree for what that step gives. -/
theorem bind_congr_of_ok {x : Except ε α} {f g : α → Except ε β}
    (h : ∀ a, x = .ok a → f a = g a) : x >>= f = x >>= g := by
  cases x with
  | error e => rfl
  | ok a => exact h a rfl

/-- The image of a result is a value exactly if the result is one. -/
theorem map_eq_ok_iff {x : Except ε α} {f : α → β} {b : β} :
    x.map f = .ok b ↔ ∃ a, x = .ok a ∧ f a = b := by
  cases x with
  | error e => simp [Except.map]
  | ok a => simp [Except.map]

/-- The image of a result is a fault exactly if the result is that fault. -/
theorem map_eq_error_iff {x : Except ε α} {f : α → β} {e : ε} :
    x.map f = .error e ↔ x = .error e := by
  cases x with
  | error e' => simp [Except.map]
  | ok a => simp [Except.map]

/-- Another wording of the faults leaves the values as they are. -/
theorem mapError_eq_ok_iff {ε' : Type} {x : Except ε α} {f : ε → ε'} {a : α} :
    x.mapError f = .ok a ↔ x = .ok a := by
  cases x with
  | error e =>
    constructor
    · intro h
      cases h
    · intro h
      cases h
  | ok a' =>
    constructor
    · intro h
      cases h
      rfl
    · intro h
      cases h
      rfl

/-- A fault after another wording comes from a fault before. -/
theorem mapError_eq_error_iff {ε' : Type} {x : Except ε α} {f : ε → ε'} {e : ε'} :
    x.mapError f = .error e ↔ ∃ e', x = .error e' ∧ f e' = e := by
  cases x with
  | error e' =>
    constructor
    · intro h
      exact ⟨e', rfl, Except.error.inj h⟩
    · rintro ⟨-, ⟨⟩, rfl⟩
      rfl
  | ok a =>
    constructor
    · intro h
      cases h
    · rintro ⟨-, ⟨⟩, -⟩

/-- Steps in a row fail exactly with the fault of the first one that fails. -/
theorem mapM_eq_error_iff {f : α → Except ε β} {as : List α} {e : ε} :
    as.mapM f = .error e ↔ ∃ before a after, as = before ++ a :: after ∧
      (∀ a' ∈ before, ∃ b, f a' = .ok b) ∧ f a = .error e := by
  induction as with
  | nil => simp [pure, Except.pure]
  | cons a rest ih =>
    rw [List.mapM_cons]
    cases hstep : f a with
    | error e' =>
      constructor
      · intro h
        obtain rfl : e' = e := Except.error.inj h
        exact ⟨[], a, rest, rfl, nofun, hstep⟩
      · rintro ⟨before, a', after, heq, hbefore, ha'⟩
        cases before with
        | nil =>
          obtain ⟨rfl, -⟩ := List.cons.inj heq
          obtain rfl : e' = e := Except.error.inj (hstep.symm.trans ha')
          rfl
        | cons a'' before =>
          obtain ⟨rfl, -⟩ := List.cons.inj heq
          obtain ⟨b, hb⟩ := hbefore a List.mem_cons_self
          rw [hstep] at hb
          cases hb
    | ok b =>
      have hrest : ((rest.mapM f).map (b :: ·)) = .error e ↔ rest.mapM f = .error e :=
        map_eq_error_iff
      refine hrest.trans (ih.trans ⟨?_, ?_⟩)
      · rintro ⟨before, a', after, rfl, hbefore, ha'⟩
        refine ⟨a :: before, a', after, rfl, fun a'' ha'' => ?_, ha'⟩
        rcases List.mem_cons.mp ha'' with rfl | ha''
        · exact ⟨b, hstep⟩
        · exact hbefore a'' ha''
      · rintro ⟨before, a', after, heq, hbefore, ha'⟩
        cases before with
        | nil =>
          obtain ⟨rfl, -⟩ := List.cons.inj heq
          rw [hstep] at ha'
          cases ha'
        | cons a'' before =>
          obtain ⟨-, rfl⟩ := List.cons.inj heq
          exact ⟨before, a', after, rfl, fun c hc => hbefore c (List.mem_cons_of_mem _ hc), ha'⟩

theorem exists_of_mapM_eq_error {f : α → Except ε β} {as : List α} {e : ε}
    (h : as.mapM f = .error e) : ∃ a ∈ as, f a = .error e := by
  obtain ⟨before, a, after, rfl, -, ha⟩ := mapM_eq_error_iff.mp h
  exact ⟨a, by simp, ha⟩

/-- Each of the values that steps in a row give is given by one of them. -/
theorem exists_of_mapM_eq_ok {f : α → Except ε β} {as : List α} {bs : List β}
    (h : as.mapM f = .ok bs) : ∀ b ∈ bs, ∃ a ∈ as, f a = .ok b := by
  induction as generalizing bs with
  | nil =>
    obtain rfl : [] = bs := Except.ok.inj h
    simp
  | cons a rest ih =>
    rw [List.mapM_cons] at h
    obtain ⟨b, hb, h⟩ := bind_eq_ok_iff.mp h
    obtain ⟨bs, hbs, h⟩ := bind_eq_ok_iff.mp h
    obtain rfl := Except.ok.inj h
    refine List.forall_mem_cons.mpr ⟨⟨a, List.mem_cons_self, hb⟩, fun b' hb' => ?_⟩
    obtain ⟨a', ha', hstep⟩ := ih hbs b' hb'
    exact ⟨a', List.mem_cons_of_mem _ ha', hstep⟩

/-- A function that goes through a list, and stops at the first fault, takes steps in a row. -/
theorem eq_mapM_of_steps (f : α → Except ε β) (run : List α → Except ε (List β))
    (hnil : run [] = .ok [])
    (hfault : ∀ {a rest e}, f a = .error e → run (a :: rest) = .error e)
    (hstep : ∀ {a rest b}, f a = .ok b → run (a :: rest) = (run rest).map (b :: ·))
    (as : List α) : run as = as.mapM f := by
  induction as with
  | nil => exact hnil
  | cons a rest ih =>
    rw [List.mapM_cons]
    cases ha : f a with
    | error e => exact hfault ha
    | ok b =>
      rw [hstep ha, ih]
      rfl

/-- Whether an outcome has its main part and a property is decided to hold of it. -/
def holdsOf (outcome : Option α × β) (P : α → β → Prop) [∀ a b, Decidable (P a b)] : Bool :=
  match outcome with
  | (some a, b) => decide (P a b)
  | (none, _) => false

/-- What is decided of an outcome that may lack its main part holds of that part. -/
theorem exists_of_outcome {outcome : Option α × β} {P : α → β → Prop} [∀ a b, Decidable (P a b)]
    (h : holdsOf outcome P = true) : ∃ a b, outcome = (some a, b) ∧ P a b := by
  unfold holdsOf at h
  split at h
  · next a b => exact ⟨a, b, rfl, of_decide_eq_true h⟩
  · cases h

/-- Whether a result is a value of which a property is decided to hold. -/
def holdsOfResult (result : Except ε α) (P : α → Prop) [∀ a, Decidable (P a)] : Bool :=
  match result with
  | .ok a => decide (P a)
  | .error _ => false

theorem exists_of_result {result : Except ε α} {P : α → Prop} [∀ a, Decidable (P a)]
    (h : holdsOfResult result P = true) : ∃ a, result = .ok a ∧ P a := by
  unfold holdsOfResult at h
  split at h
  · next a => exact ⟨a, rfl, of_decide_eq_true h⟩
  · cases h

end TypedPrefs
