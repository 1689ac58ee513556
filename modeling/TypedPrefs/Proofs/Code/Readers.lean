import Mathlib.Data.List.Basic
import TypedPrefs.Code.Reader
import TypedPrefs.Proofs.Code.Words

/-!
# What readers give and leave

A reader takes words out of tokens and makes up none. `Gives W P read` says so for one reader: if
all words in its tokens satisfy `W`, what it gives satisfies `P`, and the words that it leaves
satisfy `W`. Readers are made of others, and so are these facts about them.
-/

namespace TypedPrefs.Code.Grammar

open Token

variable {W : String → Prop} {α β : Type}

/-! ## Running readers -/

theorem bind_apply (read : Reader α) (f : α → Reader β) (ts : List Token) :
    (read >>= f) ts = (read ts).bind fun (a, rest) => f a rest := rfl

theorem bind_of_eq_some {read : Reader α} {f : α → Reader β} {ts rest : List Token}
    {a : α} (h : read ts = some (a, rest)) : (read >>= f) ts = f a rest := by
  rw [bind_apply, h]
  rfl

theorem get_apply (ts : List Token) : (get : Reader (List Token)) ts = some (ts, ts) := rfl

theorem pure_apply (a : α) (ts : List Token) : (pure a : Reader α) ts = some (a, ts) :=
  rfl

theorem exists_of_bind {read : Reader α} {f : α → Reader β} {ts rest : List Token} {b : β}
    (h : (read >>= f) ts = some (b, rest)) :
    ∃ a between, read ts = some (a, between) ∧ f a between = some (b, rest) := by
  obtain ⟨⟨a, between⟩, ha, hb⟩ := Option.bind_eq_some_iff.mp h
  exact ⟨a, between, ha, hb⟩

theorem select_cons_of_true {test : List Token → Bool} {read : Reader α}
    {rest : List ((List Token → Bool) × Reader α)} {ts : List Token} (h : test ts = true) :
    select ((test, read) :: rest) ts = read ts := by
  simp only [select, bind_apply, get_apply, Option.bind_some, h, if_true]

theorem select_cons_of_false {test : List Token → Bool} {read : Reader α}
    {rest : List ((List Token → Bool) × Reader α)} {ts : List Token} (h : test ts = false) :
    select ((test, read) :: rest) ts = select rest ts := by
  simp only [select, bind_apply, get_apply, Option.bind_some, h, Bool.false_eq_true, if_false]

theorem operatorIf_of_begins {op : List Char} {ts : List Token} (h : begins op ts = false) :
    operatorIf op ts = some ([], ts) := by
  rw [begins, Option.isSome_eq_false_iff, Option.isNone_iff_eq_none] at h
  rw [operatorIf, h]

theorem whenAhead_of_false {test : List Token → Bool} {read : Reader (List Token)}
    {ts : List Token} (h : test ts = false) : whenAhead test read ts = some ([], ts) := by
  simp only [whenAhead, bind_apply, get_apply, Option.bind_some, h, Bool.false_eq_true, if_false]
  rfl

theorem manyWithin_of_false {test : List Token → Bool} {read : Reader α} {ts : List Token}
    (h : test ts = false) (fuel : Nat) : manyWithin test read (fuel + 1) ts = some ([], ts) := by
  simp only [manyWithin, bind_apply, get_apply, Option.bind_some, h, Bool.false_eq_true, if_false]
  rfl

theorem manyWithin_of_true {test : List Token → Bool} {read : Reader α}
    {ts between rest : List Token} {a : α} {as : List α} {fuel : Nat} (h : test ts = true)
    (ha : read ts = some (a, between))
    (has : manyWithin test read fuel between = some (as, rest)) :
    manyWithin test read (fuel + 1) ts = some (a :: as, rest) := by
  simp only [manyWithin, bind_apply, get_apply, Option.bind_some, h, if_true, ha, has]
  rfl

/-! ## Tokens that follow -/

/-- Nothing follows, or one of these marks does. -/
def EndsAt (marks : List Char) (rest : List Token) : Prop :=
  ∀ t ∈ rest.head?, ∃ c ∈ marks, ∃ joint, t = .mark c joint

section

variable {marks : List Char} {c : Char} {rest : List Token}

theorem endsAt_nil : EndsAt marks [] := nofun

theorem endsAt_mark (hc : c ∈ marks) (joint : Bool) : EndsAt marks (.mark c joint :: rest) := by
  rintro _ ⟨⟩
  exact ⟨c, hc, joint, rfl⟩

theorem EndsAt.mono {more : List Char} (h : EndsAt marks rest) (hsub : marks ⊆ more) :
    EndsAt more rest := by
  intro t ht
  obtain ⟨d, hd, joint, rfl⟩ := h t ht
  exact ⟨d, hsub hd, joint, rfl⟩

theorem EndsAt.append {more : List Char} {ts : List Token} (hts : EndsAt marks ts)
    (h : EndsAt more rest) : EndsAt (marks ++ more) (ts ++ rest) := by
  cases ts with
  | nil => exact h.mono (List.subset_append_right _ _)
  | cons t ts =>
    have hall : EndsAt marks (t :: (ts ++ rest)) := hts
    exact hall.mono (List.subset_append_left _ _)

/-- Another operator does not follow. -/
theorem EndsAt.begins_eq_false (h : EndsAt marks rest) (hc : c ∉ marks) (op : List Char) :
    begins (c :: op) rest = false := by
  cases rest with
  | nil => cases op <;> rfl
  | cons t rest =>
    obtain ⟨d, hd, joint, rfl⟩ := h t rfl
    have hne : c ≠ d := fun heq => hc (heq ▸ hd)
    cases op <;> simp [begins, after?, hne]

theorem EndsAt.beginsGroup_eq_false (h : EndsAt marks rest) (d : Delimiter) :
    beginsGroup d rest = false := by
  cases rest with
  | nil => rfl
  | cons t rest =>
    obtain ⟨e, -, joint, rfl⟩ := h t rfl
    rfl

end

section

variable {c : Char} {ends : List Token → Bool} {read : Reader α} {ts rest : List Token} {a : α}

/-- Behind an item there may be nothing more to read. -/
theorem separatedWithin_last (hends : ends ts = false) (ha : read ts = some (a, rest))
    (hother : begins [c] rest = false) (fuel : Nat) :
    separatedWithin [c] ends read (fuel + 1) ts = some ([(a, false)], rest) := by
  simp only [separatedWithin, bind_apply, get_apply, Option.bind_some, hends, Bool.false_eq_true,
    if_false, ha, hother]
  rfl

/-- Or there are the operator and further items. -/
theorem separatedWithin_next {joint : Bool} {finish : List Token} {items : List (α × Bool)}
    {fuel : Nat} (hends : ends ts = false) (ha : read ts = some (a, .mark c joint :: rest))
    (hitems : separatedWithin [c] ends read fuel rest = some (items, finish)) :
    separatedWithin [c] ends read (fuel + 1) ts = some ((a, true) :: items, finish) := by
  have hbegins : begins [c] (.mark c joint :: rest) = true := by simp [begins, after?]
  have hoperator : operator [c] (.mark c joint :: rest) = some (Token.operator [c], rest) := by
    simp [operator, after?]
  simp only [separatedWithin, bind_apply, get_apply, Option.bind_some, hends, Bool.false_eq_true,
    if_false, ha, hbegins, if_true, hoperator, hitems]
  rfl

end

/-- Items with an operator between them are read one after the other, if each of them can be read
in front of the operator and of what follows the last one. -/
theorem separatedWithin_of_forall₂ {marks : List Char} {c : Char} {ends : List Token → Bool}
    {read : Reader α} {R : α → β → Prop} {finish : List Token} (hc : c ∈ marks)
    (hfinish : EndsAt marks finish) (hother : begins [c] finish = false) {own : List Token} {b : β}
    {owns : List (List Token)} {bs : List β}
    (h : List.Forall₂ (fun own b => ∀ rest, EndsAt marks rest → ∃ a, R a b ∧
      ends (own ++ rest) = false ∧ read (own ++ rest) = some (a, rest)) (own :: owns) (b :: bs))
    {fuel : Nat} (hfuel : owns.length < fuel) :
    ∃ items, separatedWithin [c] ends read fuel
        (own ++ (owns.flatMap (.mark c false :: ·) ++ finish)) = some (items, finish) ∧
      List.Forall₂ (fun item b => R item.1 b) items (b :: bs) := by
  obtain _ | fuel := fuel
  · cases hfuel
  induction owns generalizing own b bs fuel with
  | nil =>
    obtain ⟨hitem, hnone⟩ := List.forall₂_cons.mp h
    cases hnone
    obtain ⟨a, hR, hends, hread⟩ := hitem finish hfinish
    exact ⟨[(a, false)], separatedWithin_last hends hread hother _, .cons hR .nil⟩
  | cons next owns ih =>
    obtain ⟨hitem, hrest⟩ := List.forall₂_cons.mp h
    obtain _ | fuel := fuel
    · simp at hfuel
    obtain _ | ⟨b', bs⟩ := bs
    · cases hrest
    obtain ⟨items, hitems, hRs⟩ := ih hrest fuel (Nat.lt_of_succ_lt_succ hfuel)
    obtain ⟨a, hR, hends, hread⟩ := hitem _ (endsAt_mark hc false)
    refine ⟨(a, true) :: items, ?_, .cons hR hRs⟩
    rw [List.flatMap_cons, List.cons_append, List.cons_append, List.append_assoc]
    exact separatedWithin_next hends hread hitems

theorem length_le_flatMap_cons (mark : Token) (owns : List (List Token)) :
    owns.length ≤ (owns.flatMap (mark :: ·)).length := by
  induction owns with
  | nil => exact Nat.le_refl _
  | cons own owns ih =>
    rw [List.flatMap_cons, List.length_append, List.length_cons, List.length_cons]
    omega

theorem length_le_of_mem_row {own next : List Token} {owns : List (List Token)}
    (h : next ∈ own :: owns) (mark : Token) :
    next.length ≤ (own ++ owns.flatMap (mark :: ·)).length := by
  rw [List.length_append]
  rcases List.mem_cons.mp h with rfl | h
  · omega
  · obtain ⟨before, behind, rfl⟩ := List.append_of_mem h
    rw [List.flatMap_append, List.flatMap_cons, List.length_append, List.length_append,
      List.length_cons]
    omega

/-! ## Words that are left -/

/-- On tokens whose words satisfy `W` the reader gives something that satisfies `P`, and leaves
such tokens. -/
def Gives (W : String → Prop) (P : α → Prop) (read : Reader α) : Prop :=
  ∀ ⦃ts⦄, AllWords W ts → ∀ ⦃a rest⦄, read ts = some (a, rest) → P a ∧ AllWords W rest

/-- On such tokens the reader gives something that satisfies `P`, and leaves such tokens, where a
test holds of them. -/
def GivesWhere (W : String → Prop) (P : α → Prop) (test : List Token → Bool) (read : Reader α) :
    Prop :=
  ∀ ⦃ts⦄, test ts = true → AllWords W ts →
    ∀ ⦃a rest⦄, read ts = some (a, rest) → P a ∧ AllWords W rest

/-- The reader leaves tokens whose words satisfy `W` if it is given such tokens. -/
abbrev Keeps (W : String → Prop) (read : Reader α) : Prop := Gives W (fun _ => True) read

namespace Gives

theorem run {P : α → Prop} {read : Reader α} {ts rest : List Token} {a : α} (h : Gives W P read)
    (hts : AllWords W ts) (hread : read ts = some (a, rest)) : P a ∧ AllWords W rest :=
  h hts hread

theorem imp {P Q : α → Prop} {read : Reader α} (h : Gives W P read) (hPQ : ∀ a, P a → Q a) :
    Gives W Q read := fun _ hts _ _ hread => ⟨hPQ _ (h hts hread).1, (h hts hread).2⟩

theorem keeps {P : α → Prop} {read : Reader α} (h : Gives W P read) : Keeps W read :=
  h.imp fun _ _ => trivial

theorem tested {P : α → Prop} {test : List Token → Bool} {read : Reader α} (h : Gives W P read) :
    GivesWhere W P test read := fun _ _ hts _ _ hread => h hts hread

theorem bind {P : α → Prop} {Q : β → Prop} {read : Reader α} {f : α → Reader β}
    (h : Gives W P read) (hf : ∀ a, P a → Gives W Q (f a)) : Gives W Q (read >>= f) := by
  intro ts hts b rest hread
  obtain ⟨a, between, ha, hb⟩ := exists_of_bind hread
  obtain ⟨hP, hbetween⟩ := h hts ha
  exact hf a hP hbetween hb

/-- The rest of a chain does not depend on what its first reader gives. -/
theorem andThen {P : α → Prop} {Q : β → Prop} {read : Reader α} {f : α → Reader β}
    (h : Gives W P read) (hf : ∀ a, Gives W Q (f a)) : Gives W Q (read >>= f) :=
  h.bind fun a _ => hf a

end Gives

theorem gives_pure {P : α → Prop} {a : α} (h : P a) : Gives W P (pure a : Reader α) := by
  intro ts hts b rest hread
  cases hread
  exact ⟨h, hts⟩

theorem keeps_pure (a : α) : Keeps W (pure a : Reader α) := gives_pure trivial

theorem gives_failure {P : α → Prop} : Gives W P (failure : Reader α) := by
  intro ts hts b rest hread
  cases hread

theorem gives_failure_bind {P : β → Prop} {f : α → Reader β} :
    Gives W P (failure >>= f : Reader β) := by
  intro ts hts b rest hread
  cases hread

theorem gives_get : Gives W (AllWords W) (get : Reader (List Token)) := by
  intro ts hts b rest hread
  cases hread
  exact ⟨hts, hts⟩

theorem gives_cases {P : α → Prop} {c : Prop} [Decidable c] {yes no : Reader α}
    (hyes : c → Gives W P yes) (hno : ¬ c → Gives W P no) :
    Gives W P (if c then yes else no) := by
  split
  · next h => exact hyes h
  · next h => exact hno h

theorem gives_ite {P : α → Prop} {c : Prop} [Decidable c] {yes no : Reader α}
    (hyes : Gives W P yes) (hno : Gives W P no) : Gives W P (if c then yes else no) :=
  gives_cases (fun _ => hyes) fun _ => hno

/-! ## Single tokens -/

/-- A reader that only takes tokens from the front. -/
theorem keeps_of_suffix {read : Reader α}
    (h : ∀ ts a rest, read ts = some (a, rest) → rest <:+ ts) : Keeps W read :=
  fun ts hts a rest hread => ⟨trivial, hts.behind (h ts a rest hread)⟩

theorem suffix_of_after? {op : List Char} {ts rest : List Token} (h : after? op ts = some rest) :
    rest <:+ ts := by
  fun_induction after? op ts with
  | case1 ts =>
    cases h
    exact List.suffix_rfl
  | case2 c joint rest' =>
    cases h
    exact List.suffix_cons _ _
  | case4 c cs d joint rest' _ _ ih => exact (ih h).trans (List.suffix_cons _ _)
  | _ => cases h

theorem keeps_operator (op : List Char) : Keeps W (operator op) :=
  keeps_of_suffix fun ts a rest hread => by
    obtain ⟨rest', hafter, heq⟩ := Option.map_eq_some_iff.mp hread
    cases heq
    exact suffix_of_after? hafter

theorem keeps_operatorIf (op : List Char) : Keeps W (operatorIf op) :=
  keeps_of_suffix fun ts a rest hread => by
    rw [operatorIf] at hread
    split at hread
    · next hafter =>
      cases hread
      exact suffix_of_after? hafter
    · cases hread
      exact List.suffix_rfl

theorem gives_someWord : Gives W W someWord := by
  intro ts hts a rest hread
  unfold someWord at hread
  split at hread
  · cases hread
    obtain ⟨hw, hrest⟩ := allWords_cons.mp hts
    exact ⟨hw _ (List.mem_singleton_self _), hrest⟩
  · cases hread

theorem keeps_word (w : String) : Keeps W (word w) :=
  keeps_of_suffix fun ts a rest hread => by
    unfold word at hread
    split at hread
    · split at hread
      · cases hread
        exact List.suffix_cons _ _
      · cases hread
    · cases hread

theorem keeps_wordIf (w : String) : Keeps W (wordIf w) := by
  intro ts hts a rest hread
  rw [wordIf] at hread
  split at hread
  · next found hfound =>
    cases hread
    exact keeps_word w hts hfound
  · cases hread
    exact ⟨trivial, hts⟩

theorem gives_identifier : Gives W (fun w => W w ∧ isIdentifierWord w = true) identifier := by
  intro ts hts a rest hread
  unfold identifier at hread
  split at hread
  · split at hread
    · next hname =>
      cases hread
      obtain ⟨hw, hrest⟩ := allWords_cons.mp hts
      exact ⟨⟨hw _ (List.mem_singleton_self _), hname⟩, hrest⟩
    · cases hread
  · cases hread

theorem keeps_identifier : Keeps W identifier := gives_identifier.keeps

theorem keeps_name : Keeps W name := keeps_identifier.andThen fun _ => keeps_pure _

theorem keeps_lifetimeName : Keeps W lifetimeName :=
  keeps_of_suffix fun ts a rest hread => by
    unfold lifetimeName at hread
    split at hread
    · cases hread
      exact (List.suffix_cons _ _).trans (List.suffix_cons _ _)
    · cases hread

theorem keeps_lifetime : Keeps W lifetime := keeps_lifetimeName.andThen fun _ => keeps_pure _

theorem keeps_literal : Keeps W literal :=
  keeps_of_suffix fun ts a rest hread => by
    unfold literal at hread
    split at hread
    · cases hread
      exact List.suffix_cons _ _
    · split at hread
      · cases hread
        exact (List.suffix_cons _ _).trans (List.suffix_cons _ _)
      · cases hread
    · split at hread
      · cases hread
        exact List.suffix_cons _ _
      · cases hread
    · cases hread

theorem keeps_rawGroup : Keeps W rawGroup :=
  keeps_of_suffix fun ts a rest hread => by
    unfold rawGroup at hread
    split at hread
    · cases hread
      exact List.suffix_cons _ _
    · cases hread

/-! ## Groups -/

/-- What stands in a group has words of the tokens, too. -/
theorem gives_inGroup {P : α → Prop} (d : Delimiter) {read : Reader α} (h : Gives W P read) :
    Gives W P (inGroup d read) := by
  intro ts hts a rest hread
  unfold inGroup at hread
  split at hread
  · next e inner behind =>
    split at hread
    · obtain ⟨b, hwhole, heq⟩ := Option.map_eq_some_iff.mp hread
      cases heq
      obtain ⟨hinner, hbehind⟩ := allWords_cons.mp hts
      rw [whole?] at hwhole
      split at hwhole
      · next hinnerRead =>
        cases hwhole
        exact ⟨(h (allWords_group.mp hinner) hinnerRead).1, hbehind⟩
      · cases hwhole
    · cases hread
  · cases hread

/-- Whatever is read in a group, what follows it stays. -/
theorem keeps_inGroup (d : Delimiter) (read : Reader α) : Keeps W (inGroup d read) :=
  keeps_of_suffix fun ts a rest hread => by
    unfold inGroup at hread
    split at hread
    · split at hread
      · obtain ⟨b, -, heq⟩ := Option.map_eq_some_iff.mp hread
        cases heq
        exact List.suffix_cons _ _
      · cases hread
    · cases hread

theorem keeps_group (d : Delimiter) (read : Reader (List Token)) : Keeps W (group d read) :=
  (keeps_inGroup d read).andThen fun _ => keeps_pure _

/-! ## Combinations -/

theorem keeps_usedSince (start : List Token) : Keeps W (usedSince start) := by
  intro ts hts a rest hread
  cases hread
  exact ⟨trivial, hts⟩

theorem keeps_verbatim {read : Reader α} (h : Keeps W read) : Keeps W (verbatim read) :=
  gives_get.andThen fun _ => h.andThen fun _ => keeps_usedSince _

theorem keeps_ahead (test : List Token → Bool) : Keeps W (ahead test) :=
  gives_get.andThen fun _ => keeps_pure _

theorem keeps_expecting (test : List Token → Bool) : Keeps W (expecting test) :=
  gives_get.andThen fun _ => gives_ite (keeps_pure _) gives_failure

theorem keeps_whenAhead (test : List Token → Bool) {read : Reader (List Token)}
    (h : Keeps W read) : Keeps W (whenAhead test read) :=
  gives_get.andThen fun _ => gives_ite h (keeps_pure _)

theorem keeps_inRow {reads : List (Reader (List Token))} (h : reads.Forall (Keeps W)) :
    Keeps W (inRow reads) := by
  induction reads with
  | nil => exact keeps_pure _
  | cons read rest ih =>
    obtain ⟨hread, hrest⟩ := List.forall_cons .. |>.mp h
    exact hread.andThen fun _ => (ih hrest).andThen fun _ => keeps_pure _

/-- A reader is only asked where its test holds. -/
theorem gives_select_tested {P : α → Prop} {choices : List ((List Token → Bool) × Reader α)}
    (h : choices.Forall fun choice => GivesWhere W P choice.1 choice.2) :
    Gives W P (select choices) := by
  induction choices with
  | nil => exact gives_failure
  | cons choice rest ih =>
    obtain ⟨hread, hrest⟩ := List.forall_cons .. |>.mp h
    intro ts hts a after hselect
    have hchoice : (if choice.1 ts = true then choice.2 else select rest) ts = some (a, after) :=
      hselect
    split at hchoice
    · next htest => exact hread htest hts hchoice
    · exact ih hrest hts hchoice

theorem gives_select {P : α → Prop} {choices : List ((List Token → Bool) × Reader α)}
    (h : choices.Forall fun choice => Gives W P choice.2) : Gives W P (select choices) :=
  gives_select_tested (h.imp fun _ => Gives.tested)

theorem gives_many {P : α → Prop} (test : List Token → Bool) {read : Reader α}
    (h : Gives W P read) : Gives W (fun as => ∀ a ∈ as, P a) (many test read) := by
  have within : ∀ fuel, Gives W (fun as => ∀ a ∈ as, P a) (manyWithin test read fuel) := by
    intro fuel
    induction fuel with
    | zero => exact gives_failure
    | succ fuel ih =>
      refine gives_get.andThen fun ts => gives_ite ?_ (gives_pure nofun)
      exact h.bind fun a ha => ih.bind fun as has =>
        gives_pure (List.forall_mem_cons.mpr ⟨ha, has⟩)
  exact gives_get.andThen fun _ => within _

theorem keeps_repeatWhile (test : List Token → Bool) {read : Reader (List Token)}
    (h : Keeps W read) : Keeps W (repeatWhile test read) :=
  (gives_many test h).andThen fun _ => keeps_pure _

theorem gives_separated {P : α → Prop} (op : List Char) (ends : List Token → Bool)
    {read : Reader α} (h : Gives W P read) :
    Gives W (fun items => ∀ item ∈ items, P item.1) (separated op ends read) := by
  have within : ∀ fuel, Gives W (fun items => ∀ item ∈ items, P item.1)
      (separatedWithin op ends read fuel) := by
    intro fuel
    induction fuel with
    | zero => exact gives_failure
    | succ fuel ih =>
      refine gives_get.andThen fun ts => gives_ite (gives_pure nofun) ?_
      refine h.bind fun a ha => gives_get.andThen fun ts => gives_ite ?_ ?_
      · exact (keeps_operator op).andThen fun _ => ih.bind fun items hitems =>
          gives_pure (List.forall_mem_cons.mpr ⟨ha, hitems⟩)
      · exact gives_pure (List.forall_mem_singleton.mpr ha)
  exact gives_get.andThen fun _ => within _

theorem keeps_series (op : List Char) (ends : List Token → Bool) {read : Reader (List Token)}
    (h : Keeps W read) : Keeps W (series op ends read) :=
  (gives_separated op ends h).andThen fun _ => keeps_pure _

end TypedPrefs.Code.Grammar
