import Mathlib.Data.Set.Function
import TypedPrefs.Proofs.Types.Parts

/-!
# Printed forms

What the printed form of a reference tells about it. Its name and its arguments can be read back,
but not whether a bare name is a declared type, a variable or a primitive. So different references
print alike only if two bare ones among their parts do.
-/

namespace TypedPrefs.TypeRef

/-- The characters that a printed form puts around arguments. -/
def isPunctuation (c : Char) : Bool := c == '<' || c == '>' || c == ','

/-- The name that the printed form starts with. -/
def headName : TypeRef → String
  | .primitive kind => kind.name
  | .void => "void"
  | .variable name => name
  | .declared name _ => name

/-- References that can be read back from their printed forms: no name contains punctuation, and
the bare ones have different names. With a reference all its arguments belong to them. -/
structure Legible (types : Set TypeRef) : Prop where
  args : ∀ t ∈ types, ∀ a ∈ t.args, a ∈ types
  plain : ∀ t ∈ types, ∀ c ∈ t.headName.toList, isPunctuation c = false
  bare : ∀ s ∈ types, ∀ t ∈ types,
    s.args = [] → t.args = [] → s.headName = t.headName → s = t

/-! ## Names and what follows them -/

/-- What can follow a name. -/
def Delimited (rest : List Char) : Prop := ∀ c ∈ rest.head?, isPunctuation c = true

/-- What can follow a whole reference. -/
def Closed (rest : List Char) : Prop := ∀ c ∈ rest.head?, c = '>' ∨ c = ','

theorem Closed.delimited {rest : List Char} (h : Closed rest) : Delimited rest := by
  intro c hc
  rcases h c hc with rfl | rfl <;> rfl

theorem delimited_cons {c : Char} {rest : List Char} (h : isPunctuation c = true) :
    Delimited (c :: rest) := by
  intro d hd
  obtain rfl : c = d := by simpa using hd
  exact h

theorem closed_displayRest (ts : List TypeRef) (rest : List Char) :
    Closed ((displayRest ts).toList ++ '>' :: rest) := by
  intro c hc
  cases ts with
  | nil => exact .inl (by simpa [displayRest] using hc.symm)
  | cons t ts => exact .inr (by simpa [displayRest, String.toList_append] using hc.symm)

/-- A name ends where the first punctuation stands. -/
theorem name_append_inj {name name' rest rest' : List Char}
    (hname : ∀ c ∈ name, isPunctuation c = false) (hname' : ∀ c ∈ name', isPunctuation c = false)
    (hrest : Delimited rest) (hrest' : Delimited rest') (h : name ++ rest = name' ++ rest') :
    name = name' ∧ rest = rest' := by
  induction name generalizing name' with
  | nil =>
    cases name' with
    | nil => exact ⟨rfl, h⟩
    | cons c name' =>
      obtain rfl : rest = c :: (name' ++ rest') := h
      have hpunctuation := hrest c rfl
      simp [hname' c List.mem_cons_self] at hpunctuation
  | cons c name ih =>
    cases name' with
    | nil =>
      obtain rfl : c :: (name ++ rest) = rest' := h
      have hpunctuation := hrest' c rfl
      simp [hname c List.mem_cons_self] at hpunctuation
    | cons d name' =>
      obtain ⟨rfl, htail⟩ := List.cons.inj h
      obtain ⟨rfl, hrests⟩ := ih (fun x hx => hname x (List.mem_cons_of_mem _ hx))
        (fun x hx => hname' x (List.mem_cons_of_mem _ hx)) htail
      exact ⟨rfl, hrests⟩

/-! ## Reading printed forms back -/

theorem exists_of_args_ne_nil {t : TypeRef} (h : t.args ≠ []) :
    ∃ name arg args, t = declared name (arg :: args) := by
  cases t with
  | declared name args =>
    obtain ⟨arg, args, rfl⟩ := List.exists_cons_of_ne_nil h
    exact ⟨name, arg, args, rfl⟩
  | _ => exact absurd rfl h

theorem display_of_args_eq_nil {t : TypeRef} (h : t.args = []) : t.display = t.headName := by
  cases t with
  | declared name args =>
    obtain rfl : args = [] := h
    rfl
  | _ => rfl

theorem toList_display_declared (name : String) (arg : TypeRef) (rest : List TypeRef) :
    (declared name (arg :: rest)).display.toList =
      name.toList ++ '<' :: (arg.display.toList ++ ((displayRest rest).toList ++ ['>'])) := by
  simp [display, String.toList_append]

theorem toList_displayRest_cons (t : TypeRef) (ts : List TypeRef) :
    (displayRest (t :: ts)).toList =
      ',' :: ' ' :: (t.display.toList ++ (displayRest ts).toList) := by
  simp [displayRest, String.toList_append]

variable {types : Set TypeRef}

/-- A reference whose printed form stands first in a text is the only one among `types`. -/
def ReadsBack (types : Set TypeRef) (t : TypeRef) : Prop :=
  ∀ t' ∈ types, ∀ rest rest', Closed rest → Closed rest' →
    t.display.toList ++ rest = t'.display.toList ++ rest' → t = t' ∧ rest = rest'

/-- A bare reference reads back: its name ends where the text goes on, and so does the other. -/
theorem Legible.readsBack_of_args_eq_nil (h : Legible types) {t : TypeRef} (ht : t ∈ types)
    (hargs : t.args = []) : ReadsBack types t := by
  intro t' ht' rest rest' hrest hrest' heq
  rw [display_of_args_eq_nil hargs] at heq
  by_cases hargs' : t'.args = []
  · rw [display_of_args_eq_nil hargs'] at heq
    obtain ⟨hname, rfl⟩ := name_append_inj (h.plain t ht) (h.plain t' ht') hrest.delimited
      hrest'.delimited heq
    exact ⟨h.bare t ht t' ht' hargs hargs' (String.toList_inj.mp hname), rfl⟩
  · obtain ⟨name, arg, args, rfl⟩ := exists_of_args_ne_nil hargs'
    -- the text would go on with `<`
    rw [toList_display_declared, List.append_assoc] at heq
    obtain ⟨-, rfl⟩ := name_append_inj (h.plain t ht) (h.plain _ ht') hrest.delimited
      (delimited_cons rfl) heq
    rcases hrest '<' rfl with hclose | hcomma
    · simp at hclose
    · simp at hcomma

theorem displayRest_append_inj {ts ts' : List TypeRef} {rest rest' : List Char}
    (hread : ∀ t ∈ ts, ReadsBack types t) (hts' : ∀ t ∈ ts', t ∈ types)
    (heq : (displayRest ts).toList ++ '>' :: rest = (displayRest ts').toList ++ '>' :: rest') :
    ts = ts' ∧ rest = rest' := by
  induction ts generalizing ts' with
  | nil =>
    cases ts' with
    | nil => exact ⟨rfl, by simpa [displayRest] using heq⟩
    | cons t' ts' => simp [displayRest] at heq
  | cons t ts ih =>
    cases ts' with
    | nil => simp [displayRest] at heq
    | cons t' ts' =>
      simp only [toList_displayRest_cons, List.cons_append, List.append_assoc,
        List.cons.injEq, true_and] at heq
      obtain ⟨rfl, hrest⟩ := hread t List.mem_cons_self t' (hts' t' List.mem_cons_self) _ _
        (closed_displayRest ts rest) (closed_displayRest ts' rest') heq
      obtain ⟨rfl, rfl⟩ := ih (fun s hs => hread s (List.mem_cons_of_mem _ hs))
        (fun s hs => hts' s (List.mem_cons_of_mem _ hs)) hrest
      exact ⟨rfl, rfl⟩

theorem Legible.readsBack (h : Legible types) {t : TypeRef} (ht : t ∈ types) :
    ReadsBack types t := by
  induction t with
  | primitive kind => exact h.readsBack_of_args_eq_nil ht rfl
  | void => exact h.readsBack_of_args_eq_nil ht rfl
  | parameter name => exact h.readsBack_of_args_eq_nil ht rfl
  | declared name args ih =>
    cases args with
    | nil => exact h.readsBack_of_args_eq_nil ht rfl
    | cons arg args =>
      intro t' ht' rest rest' hrest hrest' heq
      by_cases hargs' : t'.args = []
      · obtain ⟨rfl, -⟩ :=
          h.readsBack_of_args_eq_nil ht' hargs' _ ht rest' rest hrest' hrest heq.symm
        cases hargs'
      · obtain ⟨name', arg', args', rfl⟩ := exists_of_args_ne_nil hargs'
        have hargs : ∀ a ∈ arg :: args, ReadsBack types a := fun a ha =>
          ih a ha (h.args _ ht a ha)
        have hmem : ∀ a ∈ arg' :: args', a ∈ types := h.args _ ht'
        simp only [toList_display_declared, List.append_assoc, List.cons_append,
          List.nil_append] at heq
        obtain ⟨hname, hopen⟩ := name_append_inj (h.plain _ ht) (h.plain _ ht')
          (delimited_cons rfl) (delimited_cons rfl) heq
        obtain ⟨rfl, hrests⟩ := hargs arg List.mem_cons_self arg' (hmem arg' List.mem_cons_self)
          _ _ (closed_displayRest args rest) (closed_displayRest args' rest')
          (List.cons.inj hopen).2
        obtain ⟨rfl, rfl⟩ := displayRest_append_inj
          (fun a ha => hargs a (List.mem_cons_of_mem _ ha))
          (fun a ha => hmem a (List.mem_cons_of_mem _ ha)) hrests
        obtain rfl := String.toList_inj.mp hname
        exact ⟨rfl, rfl⟩

/-- Legible references have different printed forms. -/
theorem Legible.display_injOn (h : Legible types) : types.InjOn display := by
  intro s hs t ht heq
  exact (h.readsBack hs t ht [] [] nofun nofun (by rw [heq])).1

end TypedPrefs.TypeRef
