import TypedPrefs.Proofs.Result
import TypedPrefs.Proofs.Session.Access
import TypedPrefs.Proofs.Session.Storage

/-!
# Editors at work

An editor lives from the moment it is opened until it is ended, and other things can happen in
between. So here its calls are single moves among others. The moves of an editor change no world; a
value that is refused ends it; and what it writes in the end is what the setters would write one
after another at that moment. An edit in one go is the run whose only moves are calls of the editor.
-/

namespace TypedPrefs.Session

open Blueprint

variable {x : Serializers} {m : Blueprint.Class} {g : Group} {keys : Keys} {n : Nat} {w w₁ : World}

/-! ## Edits of changes -/

theorem edits_cons (keys : Keys) (c : Change x) (changes : List (Change x)) :
    edits keys (c :: changes) =
      (c.edit keys).bind fun edit => (edits keys changes).map (edit :: ·) := by
  rw [edits]
  cases c.edit keys <;> rfl

theorem edits_eq_mapM (keys : Keys) (changes : List (Change x)) :
    edits keys changes = changes.mapM (Change.edit keys) := by
  induction changes with
  | nil => rfl
  | cons c rest ih =>
    rw [edits_cons, List.mapM_cons, ih]
    rfl

theorem edit_eq_error_iff {c : Change x} {f : SerializationError} :
    c.edit keys = .error f ↔ (exposure x c.preference).serializer.serialize c.value = .error f := by
  rw [Change.edit]
  cases (exposure x c.preference).serializer.serialize c.value <;> simp [Except.map]

theorem exists_edit_iff {c : Change x} :
    (∃ edit, c.edit keys = .ok edit) ↔
      ∃ t, (exposure x c.preference).serializer.serialize c.value = .ok t := by
  rw [Change.edit]
  cases (exposure x c.preference).serializer.serialize c.value <;> simp [Except.map]

/-- The first of some changes whose value is refused, and why. -/
def IsFirstRefusal (changes : List (Change x)) (f : SerializationError) : Prop :=
  ∃ before c after, changes = before ++ c :: after ∧
    (∀ c' ∈ before, ∃ t, (exposure x c'.preference).serializer.serialize c'.value = .ok t) ∧
    (exposure x c.preference).serializer.serialize c.value = .error f

theorem edits_eq_error_iff {changes : List (Change x)} {f : SerializationError} :
    edits keys changes = .error f ↔ IsFirstRefusal changes f := by
  simp only [edits_eq_mapM, mapM_eq_error_iff, exists_edit_iff, edit_eq_error_iff, IsFirstRefusal]

/-! ## Editors -/

/-- An editor: the keys of its group, the store that it writes to, and the edits so far. -/
structure Editor where
  keys : Keys
  store : Nat
  pending : List Edit

namespace Editor

/-- Asks for a group and opens an editor of it. -/
def opened (g : Group) (w : World) : Except PrefError Editor × World :=
  match group g w with
  | (.error e, w) => (.error e, w)
  | (.ok keys, w) => ((underlyingStore w).map fun store => ⟨keys, store, []⟩, w)

/-- Calls a setter of the editor. If the value is refused the editor is lost. -/
def set (e : Editor) (c : Change x) : Except SerializationError Editor :=
  (c.edit e.keys).map fun edit => { e with pending := e.pending ++ [edit] }

/-- Ends the editor. -/
def finish (e : Editor) (ending : Ending) (w : World) : Answer x × World :=
  Session.finish e.store e.pending ending w

end Editor

/-- What happens while an editor is at work: one of its setters is called, the class is used in some
other way, or stores and resources change from outside. -/
inductive Move (x : Serializers) where
  | set (change : Change x)
  | meanwhile (operation : Operation x)
  | outside (stores : Nat → Store) (resources : Nat → Resources)

/-- Whether a move is a call of the editor. -/
def Move.isCall : Move x → Bool
  | .set _ => true
  | _ => false

/-- The changes that the calls among moves ask for. -/
def changesOf (moves : List (Move x)) : List (Change x) :=
  moves.filterMap fun
    | .set change => some change
    | _ => none

/-- A world with an editor at work, or with the error that ended it. -/
structure Editing where
  world : World
  editor : Except SerializationError Editor

namespace Editing

/-- What a move does. After the editor is lost its calls do nothing. -/
def step (m : Blueprint.Class) (s : Editing) : Move x → Editing
  | .set change => { s with editor := s.editor.bind (·.set change) }
  | .meanwhile operation => { s with world := (perform m s.world operation).2 }
  | .outside stores resources => { s with world := { s.world with stores, resources } }

/-- What moves in a row do. -/
def run (m : Blueprint.Class) (s : Editing) (moves : List (Move x)) : Editing :=
  moves.foldl (step m) s

theorem run_cons (s : Editing) (move : Move x) (moves : List (Move x)) :
    s.run m (move :: moves) = (s.step m move).run m moves :=
  rfl

/-! ## Worlds while an editor is at work -/

/-- What happens to the world does not depend on the editor. -/
theorem world_run_congr {s t : Editing} (h : s.world = t.world) (moves : List (Move x)) :
    (s.run m moves).world = (t.run m moves).world := by
  induction moves generalizing s t with
  | nil => exact h
  | cons move rest ih =>
    refine ih ?_
    cases move with
    | set change => exact h
    | meanwhile operation => simp only [step, h]
    | outside stores resources => simp only [step, h]

/-- The calls of an editor change no world. -/
theorem world_run_of_calls (s : Editing) (moves : List (Move x)) :
    (s.run m moves).world = (s.run m (moves.filter (!·.isCall))).world := by
  induction moves generalizing s with
  | nil => rfl
  | cons move rest ih =>
    cases move with
    | set change =>
      rw [List.filter_cons_of_neg (by simp [Move.isCall]), run_cons, ← ih s]
      exact world_run_congr (s := s.step m (.set change)) (t := s) rfl rest
    | meanwhile operation => exact ih _
    | outside stores resources => exact ih _

/-- The group of the editor stays as it is. -/
theorem given_run {s : Editing} {moves : List (Move x)} (h : Given g keys n s.world)
    (hmoves : ∀ op, .meanwhile op ∈ moves → op.IsOf m) : Given g keys n (s.run m moves).world := by
  induction moves generalizing s with
  | nil => exact h
  | cons move rest ih =>
    refine ih ?_ fun op hop => hmoves op (List.mem_cons_of_mem _ hop)
    cases move with
    | set change => exact h
    | meanwhile operation =>
      obtain ⟨b, hb, hrest⟩ := h
      obtain ⟨b', hlater⟩ := later_perform (hmoves operation List.mem_cons_self) hb
      exact Given.later ⟨b, hb, hrest⟩ hlater
    | outside stores resources => exact h.of_bound_eq rfl

/-! ## What an editor collects -/

/-- The editor has the edits of all changes so far, or is lost at the first one that is refused. -/
theorem editor_run (s : Editing) {e : Editor} (he : s.editor = .ok e) (moves : List (Move x)) :
    (s.run m moves).editor =
      (edits e.keys (changesOf moves)).map fun more => { e with pending := e.pending ++ more } := by
  -- an editor that is lost stays lost, so only the calls before the first refusal count
  have hlost (f : SerializationError) (t : Editing) (ht : t.editor = .error f)
      (moves : List (Move x)) : (t.run m moves).editor = .error f := by
    induction moves generalizing t with
    | nil => exact ht
    | cons move rest ih =>
      refine ih _ ?_
      cases move with
      | set change => simp only [step, ht, Except.bind]
      | meanwhile operation => exact ht
      | outside stores resources => exact ht
  induction moves generalizing s e with
  | nil =>
    rw [show s.run m [] = s from rfl, he]
    simp [changesOf, edits, Except.map]
  | cons move rest ih =>
    rw [run_cons]
    cases move with
    | set change =>
      rw [show changesOf (.set change :: rest) = change :: changesOf rest from rfl, edits_cons]
      cases hedit : change.edit e.keys with
      | error f =>
        refine (hlost f _ ?_ rest).trans rfl
        simp [step, he, Except.bind, Editor.set, hedit, Except.map]
      | ok edit =>
        have hstep : (s.step m (.set change)).editor =
            .ok { e with pending := e.pending ++ [edit] } := by
          simp [step, he, Except.bind, Editor.set, hedit, Except.map]
        rw [ih _ hstep]
        cases edits e.keys (changesOf rest) <;> simp [Except.map, Except.bind]
    | meanwhile operation => exact ih _ he
    | outside stores resources => exact ih _ he

end Editing

/-! ## Batches and setters -/

/-- Setters one after another write what one batch of their edits writes. -/
theorem performAll_setters {changes : List (Change x)} {es : List Edit} (h : Given g keys n w)
    (hes : edits keys changes = .ok es) :
    performAll m w (changes.map fun c => .group g (.set c)) = (w.commit n es).2 := by
  induction changes generalizing w es with
  | nil =>
    cases hes
    exact (WorldOf.commit_of_unchanged (Store.commit_nil _)).symm
  | cons c rest ih =>
    rw [edits_cons] at hes
    cases hedit : c.edit keys with
    | error f => simp [hedit, Except.bind] at hes
    | ok edit =>
      cases hrest : edits keys rest with
      | error f => simp [hedit, hrest, Except.bind, Except.map] at hes
      | ok more =>
        obtain rfl : edit :: more = es := by simpa [hedit, hrest, Except.bind, Except.map] using hes
        -- the world after one setter has the same group, so the rest goes on from there
        have hset : (perform m w (.group g (.set c))).2 = (w.commit n [edit]).2 := by
          rw [h.perform, performIn, hedit]
        rw [List.map_cons, performAll, List.foldl_cons, hset,
          show edit :: more = [edit] ++ more from rfl, WorldOf.commit_append]
        exact ih (h.commit n [edit]) hrest

/-! ## Editors in one go -/

/-- Opens an editor, calls its setters in a row and ends it, unless a value is refused. -/
def Editing.inOneGo (m : Blueprint.Class) (g : Group) (changes : List (Change x)) (ending : Ending)
    (w : World) : Answer x × World :=
  match Editor.opened g w with
  | (.error e, w) => (.failed e, w)
  | (.ok editor, w) =>
    let s := Editing.run m ⟨w, .ok editor⟩ (changes.map .set)
    match s.editor with
    | .ok editor => (editor.finish ending s.world)
    | .error f => (.refused f, s.world)

theorem changesOf_map_set (changes : List (Change x)) : changesOf (changes.map .set) = changes := by
  rw [changesOf, List.filterMap_map]
  exact List.filterMap_some

/-- Calls of an editor in a row change no world. -/
theorem Editing.world_run_map_set (s : Editing) (changes : List (Change x)) :
    (s.run m (changes.map .set)).world = s.world := by
  have hnone : (changes.map Move.set).filter (!·.isCall) = [] := by simp [Move.isCall]
  rw [world_run_of_calls, hnone]
  rfl

/-- An edit of a class is an editor in one go. -/
theorem perform_edit (m : Blueprint.Class) (g : Group) (changes : List (Change x))
    (ending : Ending) (w : World) :
    perform m w (.group g (.edit changes ending)) = Editing.inOneGo m g changes ending w := by
  rw [perform, Editing.inOneGo, Editor.opened]
  rcases group g w with ⟨result, w₁⟩
  cases result with
  | error e => rfl
  | ok keys =>
    cases hstore : underlyingStore w₁ with
    | error e => simp [Except.map, hstore]
    | ok n =>
      have hworld := Editing.world_run_map_set (m := m) ⟨w₁, .ok ⟨keys, n, []⟩⟩ changes
      have heditor := Editing.editor_run (m := m) ⟨w₁, .ok ⟨keys, n, []⟩⟩ rfl (changes.map .set)
      rw [changesOf_map_set] at heditor
      simp only [Except.map, hstore, performIn, hworld, heditor]
      cases edits keys changes <;> rfl

/-! ## Editors among other operations -/

/-- An editor is of its group, without edits, and writes to the store of the class. -/
theorem opened_outcomes {b : Bound} (hg : g ∈ m.groups) (hb : w.bound.content = some b) :
    (∃ e, Editor.opened g w = (.error e, w)) ∨
    ∃ keys w₁, Editor.opened g w = (.ok ⟨keys, b.store, []⟩, w₁) ∧ Given g keys b.store w₁ ∧
      w₁.stores = w.stores := by
  rcases group_outcomes hg hb with ⟨e, hgroup⟩ | ⟨keys, w₁, hgroup, hgiven, hstores⟩
  · exact .inl ⟨e, by rw [Editor.opened, hgroup]⟩
  · refine .inr ⟨keys, w₁, ?_, hgiven, hstores⟩
    rw [Editor.opened, hgroup]
    simp only [hgiven.underlyingStore, Except.map]

/-- **What an editor writes.** An edit of a class is an editor that is opened, called and ended in
one go. An editor that works while other things happen changes nothing by its calls. It is lost
exactly if a value is refused, with what was said of the first one. As long as it is not, dropping
it changes nothing, and writing its changes does to the world what the setters of the group would
do one after another at that moment. -/
theorem editor_writes_as_setters (x : Serializers) {g : Group} (hg : g ∈ m.groups) {b : Bound}
    (hb : w.bound.content = some b) :
    (∀ (changes : List (Change x)) ending,
      perform m w (.group g (.edit changes ending)) = Editing.inOneGo m g changes ending w) ∧
    (∀ e w₁, Editor.opened g w = (.error e, w₁) → w₁ = w) ∧
    ∀ e w₁, Editor.opened g w = (.ok e, w₁) → w₁.stores = w.stores ∧
      ∀ moves : List (Move x), (∀ op, .meanwhile op ∈ moves → op.IsOf m) →
        let s := Editing.run m ⟨w₁, .ok e⟩ moves
        s.world = (Editing.run m ⟨w₁, .ok e⟩ (moves.filter (!·.isCall))).world ∧
        (∀ f, s.editor = .error f ↔ IsFirstRefusal (changesOf moves) f) ∧
        ∀ e', s.editor = .ok e' →
          let setters : List (Operation x) :=
            (changesOf moves).map fun c => .group g (.set c)
          e'.finish .drop s.world = ((.dropped : Answer x), s.world) ∧
          e'.finish .apply s.world = ((.done : Answer x), performAll m s.world setters) ∧
          e'.finish .commit s.world =
            ((.truth (!(s.world.stores b.store).readOnly) : Answer x),
              performAll m s.world setters) := by
  refine ⟨fun changes ending => perform_edit m g changes ending w, ?_, ?_⟩
  · intro e w₁ hopened
    rcases opened_outcomes hg hb with ⟨e', heq⟩ | ⟨keys, w', heq, -⟩
    · rw [heq] at hopened
      exact (congrArg Prod.snd hopened).symm
    · rw [heq] at hopened
      cases congrArg Prod.fst hopened
  · intro e w₁ hopened
    rcases opened_outcomes hg hb with ⟨e', heq⟩ | ⟨keys, w', heq, hgiven, hstores⟩
    · rw [heq] at hopened
      cases congrArg Prod.fst hopened
    obtain ⟨he, rfl⟩ := Prod.mk.inj (heq.symm.trans hopened)
    obtain rfl := Except.ok.inj he
    refine ⟨hstores, fun moves hmoves => ?_⟩
    intro s
    have heditor := Editing.editor_run (m := m) ⟨w', .ok ⟨keys, b.store, []⟩⟩ rfl moves
    refine ⟨Editing.world_run_of_calls _ moves, fun f => ?_, fun e' he' => ?_⟩
    · exact (iff_of_eq (congrArg (· = .error f) heditor)).trans
        (map_eq_error_iff.trans edits_eq_error_iff)
    · obtain ⟨es, hes, rfl⟩ := map_eq_ok_iff.mp (heditor.symm.trans he')
      have hthen : Given g keys b.store s.world :=
        Editing.given_run (s := ⟨w', .ok ⟨keys, b.store, []⟩⟩) hgiven hmoves
      have hsetters := performAll_setters (m := m) hthen hes
      simp only [List.nil_append]
      refine ⟨rfl, Prod.ext rfl hsetters.symm, Prod.ext ?_ hsetters.symm⟩
      exact congrArg Answer.truth (Store.made_commit _ es)

/-- An editor that sets a number twice, while a setter is called and another store is put in place:
it is not lost, and writes to that store what two setters would write. -/
theorem editor_writes_as_setters_twice :
    ∃ m ds, build 10 (classOfPrefixes [("first", "")]) = (some m, ds) ∧
      Diagnostic.anyError ds = false ∧
      let first := countGroup 0 "first" "First" ""
      let w : World := performAll (x := plainSerializers) m
        (.start (fun _ => .empty) fun _ => .identity) [.bindTo 0 0]
      ∃ e w₁, Editor.opened first w = (.ok e, w₁) ∧
        let s := Editing.run m ⟨w₁, .ok e⟩
          [.set (setFive ""), .meanwhile (.group first (.set (setFive ""))),
            .outside (fun _ => .empty) fun _ => .identity, .set (setFive "")]
        ∃ e', s.editor = .ok e' ∧
          e'.finish .commit s.world =
            ((.truth true : Answer plainSerializers),
              performAll m s.world
                [.group first (.set (setFive "")), .group first (.set (setFive ""))]) := by
  obtain ⟨m, ds, hbuilt, hds, hgroups⟩ :
      ∃ m ds, build 10 (classOfPrefixes [("first", "")]) = (some m, ds) ∧
        Diagnostic.anyError ds = false ∧ m.groups = [countGroup 0 "first" "First" ""] :=
    exists_of_outcome (by decide +kernel)
  have hfirst : countGroup 0 "first" "First" "" ∈ m.groups := by simp [hgroups]
  refine ⟨m, ds, hbuilt, hds, ?_⟩
  intro first w
  obtain ⟨-, -, hopened⟩ :=
    editor_writes_as_setters plainSerializers hfirst (w := w) (b := ⟨0, 0, fun _ => .empty⟩) rfl
  refine ⟨_, _, rfl, ?_⟩
  intro s
  obtain ⟨-, hmoves⟩ := hopened _ _ rfl
  obtain ⟨-, -, hwritten⟩ := hmoves
    [.set (setFive ""), .meanwhile (.group first (.set (setFive ""))),
      .outside (fun _ => .empty) fun _ => .identity, .set (setFive "")]
    (by simpa [Operation.IsOf] using hfirst)
  refine ⟨_, rfl, ?_⟩
  obtain ⟨-, -, hcommit⟩ := hwritten _ rfl
  exact hcommit

end TypedPrefs.Session
