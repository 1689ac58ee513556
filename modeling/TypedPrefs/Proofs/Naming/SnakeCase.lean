import TypedPrefs.Naming.Identifier
import TypedPrefs.Proofs.Text.LetterCase

/-!
# Snake case as a normal form

Snake case is meant to be a normal form: a name in snake case should keep it. A capital for which
there is no small letter stands in the way. It stays a capital, and where the capital before it
becomes a small letter, a second pass finds a word that begins there, which the first pass did not.
These places are the only ones at which a second pass changes anything, and a third one changes
nothing.
-/

namespace TypedPrefs.Naming

open Text

/-! ## What a pass leaves alone -/

/-- Whether a character is a capital that has no small letter. -/
def isLone (c : Char) : Bool := isUppercase c && lower c == [c]

/-- The last character that is written for `c`. -/
def written (c : Char) : Char := if isUppercase c then (lower c).getLast?.getD c else c

theorem isUppercase_of_isLone {c : Char} (h : isLone c = true) : isUppercase c = true := by
  simp only [isLone, Bool.and_eq_true] at h
  exact h.1

theorem lower_of_isLone {c : Char} (h : isLone c = true) : lower c = [c] := by
  simp only [isLone, Bool.and_eq_true, beq_iff_eq] at h
  exact h.2

/-- A capital is lone, or nothing that is written for it is a capital. -/
theorem lower_capital {c : Char} (h : isUppercase c = true) :
    isLone c = true ∨
      isLone c = false ∧ ∃ first rest, lower c = first :: rest ∧ isLowercase first = true ∧
        ∀ l ∈ lower c, isUppercase l = false := by
  have hsmall : isLowercase 'i' = true := by decide
  have hdotted : isUppercase 'i' = false ∧ isUppercase '\u0307' = false := ⟨by decide, rfl⟩
  rcases lower_cases c with hself | ⟨l, hl, hlower⟩ | hdots
  · left
    simp [isLone, h, hself]
  · right
    have hne : l ≠ c := by
      intro heq
      rw [heq, not_isLowercase_of_isUppercase h] at hlower
      cases hlower
    refine ⟨by simp [isLone, hl, hne], l, [], hl, hlower, ?_⟩
    simpa [hl] using not_isUppercase_of_isLowercase hlower
  · right
    refine ⟨by simp [isLone, hdots], 'i', ['\u0307'], hdots, hsmall, ?_⟩
    simpa [hdots] using hdotted

theorem written_capital {c : Char} (h : isUppercase c = true) :
    (lower c).getLast? = some (written c) := by
  have hne : lower c ≠ [] := by
    rcases lower_cases c with hself | ⟨l, hl, -⟩ | hdots
    · simp [hself]
    · simp [hl]
    · simp [hdots]
  rw [written, if_pos h, List.getLast?_eq_some_getLast hne, Option.getD_some]

/-- Characters without capitals are left alone by a pass. -/
theorem snakeAfter_append {chars : List Char} {last : Char}
    (h : ∀ c ∈ chars, isUppercase c = false) (hlast : chars.getLast? = some last)
    (before : Option Char) (rest : List Char) :
    snakeAfter before (chars ++ rest) = chars ++ snakeAfter (some last) rest := by
  induction chars generalizing before with
  | nil => cases hlast
  | cons c chars ih =>
    simp only [List.mem_cons, forall_eq_or_imp] at h
    rw [List.cons_append, snakeAfter, h.1]
    cases chars with
    | nil =>
      simp only [List.getLast?_singleton, Option.some.injEq] at hlast
      simp [hlast]
    | cons d chars =>
      rw [List.getLast?_cons_cons] at hlast
      simpa using ih h.2 hlast (some c)

/-! ## Where a second pass finds a word -/

/-- A pass over characters keeps what another pass has written for them. The second pass sees the
character that was written last, which need not be the one that the first pass saw. -/
def IsKept (seen before : Option Char) (chars : List Char) : Prop :=
  snakeAfter seen (snakeAfter before chars) = snakeAfter before chars

/-- An underscore never begins or ends a word. -/
theorem beginsWord_underscore (after : Option Char) : beginsWord (some '_') after = false := by
  have hdigit : '_'.isDigit = false := by decide
  simp [beginsWord, not_isLowercase_underscore, not_isUppercase_underscore, hdigit]

/-- What a pass writes before the characters of a capital goes unnoticed by a second pass, which
then sees an underscore. -/
theorem isKept_cons (seen before : Option Char) (c : Char) (rest : List Char) :
    IsKept seen before (c :: rest) ↔
      (isLone c = true → beginsWord before rest.head? = false →
        beginsWord seen (snakeAfter (some c) rest).head? = false) ∧
      IsKept (some (written c)) (some c) rest := by
  have hupper := not_isUppercase_underscore
  unfold IsKept
  rw [snakeAfter.eq_2 before]
  by_cases hcapital : isUppercase c = true
  · rw [if_pos hcapital]
    have hlast := written_capital hcapital
    rcases lower_capital hcapital with hlone | ⟨hnot, -, -, -, -, hplain⟩
    · rw [lower_of_isLone hlone] at hlast ⊢
      simp only [List.getLast?_singleton, Option.some.injEq] at hlast
      rw [← hlast]
      by_cases hword : beginsWord before rest.head? = true
      · simp [hword, hlone, hcapital, snakeAfter, hupper, beginsWord_underscore,
          lower_of_isLone hlone]
      · simp only [Bool.not_eq_true] at hword
        by_cases hagain : beginsWord seen (snakeAfter (some c) rest).head? = true
        · have hne : '_' ≠ c := by
            intro heq
            rw [← heq, hupper] at hcapital
            cases hcapital
          simp [hword, hlone, hcapital, snakeAfter, hagain, hne]
        · simp [hword, hlone, hcapital, snakeAfter, hagain, lower_of_isLone hlone]
    · by_cases hword : beginsWord before rest.head? = true
      · simp [hword, hnot, snakeAfter, hupper, snakeAfter_append hplain hlast]
      · simp [hword, hnot, snakeAfter_append hplain hlast]
  · have hnot : isLone c = false := by
      simp only [Bool.not_eq_true] at hcapital
      simp [isLone, hcapital]
    rw [if_neg hcapital]
    simp [snakeAfter, hcapital, hnot, written]

/-- A second pass begins a word at the capital `c` between `p` and `after`, where the first pass did
not: `c` has no small letter, it stands behind a capital and not in front of a small letter. Either
the capital before it becomes a small letter, or that one has no small letter either and the capital
behind it becomes one. -/
structure BeginsLate (p c : Char) (after : List Char) : Prop where
  lone : isLone c = true
  behind : isUppercase p = true
  inside : after.head?.any isLowercase = false
  seen : (lower p).getLast?.any isLowercase = true ∨
    isLone p = true ∧ ∃ n rest, after = n :: rest ∧ isUppercase n = true ∧ isLone n = false ∧
      rest.head?.any isLowercase = false

/-- In a row of capitals a word begins at the last one. -/
theorem beginsWord_capital {c : Char} (h : isUppercase c = true) (after : Option Char) :
    beginsWord (some c) after = after.any isLowercase := by
  simp [beginsWord, h, not_isLowercase_of_isUppercase h, not_isDigit_of_isUppercase h]

/-- Behind a capital, a small letter is written first for a small letter or for a capital at which
no word begins. -/
theorem head_snakeAfter_isLowercase {c : Char} (h : isUppercase c = true) {after : List Char}
    (hinside : after.head?.any isLowercase = false) :
    (snakeAfter (some c) after).head?.any isLowercase = true ↔
      ∃ n rest, after = n :: rest ∧ isUppercase n = true ∧ isLone n = false ∧
        rest.head?.any isLowercase = false := by
  cases after with
  | nil => simp [snakeAfter]
  | cons n rest =>
    simp only [List.head?_cons, Option.any_some] at hinside
    rw [snakeAfter, beginsWord_capital h]
    by_cases hcapital : isUppercase n = true
    · by_cases hword : rest.head?.any isLowercase = true
      · simp [hcapital, hword, not_isLowercase_underscore]
      · rcases lower_capital hcapital with hlone | ⟨hnot, first, more, hfirst, hsmall, -⟩
        · simp [hcapital, hword, hlone, lower_of_isLone hlone, hinside]
        · simp only [Bool.not_eq_true] at hword
          refine iff_of_true ?_ ⟨n, rest, rfl, hcapital, hnot, hword⟩
          simp [hcapital, hword, hfirst, hsmall]
    · simp [hcapital, hinside]

theorem beginsLate_iff {p c : Char} {after : List Char} :
    BeginsLate p c after ↔ isLone c = true ∧ beginsWord (some p) after.head? = false ∧
      beginsWord (some (written p)) (snakeAfter (some c) after).head? = true := by
  have hdot : isLowercase '\u0307' = false ∧ isUppercase '\u0307' = false ∧
      '\u0307'.isDigit = false := ⟨rfl, rfl, rfl⟩
  constructor
  · rintro ⟨hlone, hbehind, hinside, hseen⟩
    refine ⟨hlone, by rw [beginsWord_capital hbehind, hinside], ?_⟩
    rcases hseen with hsmall | ⟨hlone', hnext⟩
    · rw [written_capital hbehind, Option.any_some] at hsmall
      simp [beginsWord, hsmall]
    · have hself : written p = p := by simp [written, lower_of_isLone hlone']
      rw [hself, beginsWord_capital hbehind]
      exact (head_snakeAfter_isLowercase (isUppercase_of_isLone hlone) hinside).mpr hnext
  · rintro ⟨hlone, hfirst, hsecond⟩
    have hbehind : isUppercase p = true := by
      -- both passes see the same character if it is no capital
      by_cases hcapital : isUppercase p = true
      · exact hcapital
      · simp_all [beginsWord, written]
    rw [beginsWord_capital hbehind] at hfirst
    refine ⟨hlone, hbehind, hfirst, ?_⟩
    rw [written_capital hbehind]
    rcases lower_cases p with hself | ⟨l, hl, hsmall⟩ | hdots
    · have hwritten : written p = p := by simp [written, hself]
      rw [hwritten, beginsWord_capital hbehind,
        head_snakeAfter_isLowercase (isUppercase_of_isLone hlone) hfirst] at hsecond
      exact .inr ⟨by simp [isLone, hbehind, hself], hsecond⟩
    · left
      simp [written, hl, hbehind, hsmall]
    · simp [written, hdots, hbehind, beginsWord, hdot] at hsecond

/-- A second pass keeps what stands behind `p` exactly if it begins no word late. -/
theorem isKept_iff {p : Char} {chars : List Char} :
    IsKept (some (written p)) (some p) chars ↔
      ∀ q c after, q :: c :: after <:+ p :: chars → ¬ BeginsLate q c after := by
  induction chars generalizing p with
  | nil =>
    refine iff_of_true rfl fun q c after hsuffix => ?_
    have hlength := hsuffix.length_le
    simp at hlength
  | cons d rest ih =>
    have hhead : ¬ BeginsLate p d rest ↔ (isLone d = true → beginsWord (some p) rest.head? = false →
        beginsWord (some (written p)) (snakeAfter (some d) rest).head? = false) := by
      simp [beginsLate_iff]
    rw [isKept_cons, ← hhead, ih]
    constructor
    · rintro ⟨hnot, hrest⟩ q c after hsuffix
      rcases List.suffix_cons_iff.mp hsuffix with heq | hlater
      · simp only [List.cons.injEq] at heq
        rwa [heq.1, heq.2.1, heq.2.2]
      · exact hrest q c after hlater
    · intro h
      exact ⟨h p d rest List.suffix_rfl,
        fun q c after hsuffix => h q c after (hsuffix.trans (List.suffix_cons p _))⟩

theorem isKept_none_iff {chars : List Char} :
    IsKept none none chars ↔ ∀ p c after, p :: c :: after <:+ chars → ¬ BeginsLate p c after := by
  cases chars with
  | nil => exact iff_of_true rfl fun p c after hsuffix => by simp at hsuffix
  | cons d rest =>
    rw [isKept_cons, isKept_iff]
    simp [beginsWord]

/-! ## Repeated passes -/

/-- The capitals that are left after a pass have no small letter. -/
theorem isLone_of_mem_snakeAfter {before : Option Char} {chars : List Char} {c : Char}
    (hmem : c ∈ snakeAfter before chars) (hcapital : isUppercase c = true) : isLone c = true := by
  induction chars generalizing before with
  | nil => simp [snakeAfter] at hmem
  | cons d rest ih =>
    rw [snakeAfter] at hmem
    split at hmem
    · next hd =>
      simp only [List.mem_append] at hmem
      rcases hmem with (hmark | hmem) | hmem
      · split at hmark
        · rw [List.mem_singleton.mp hmark, not_isUppercase_underscore] at hcapital
          cases hcapital
        · cases hmark
      · rcases lower_capital hd with hlone | ⟨-, -, -, -, -, hplain⟩
        · rw [lower_of_isLone hlone] at hmem
          rwa [List.mem_singleton.mp hmem]
        · rw [hplain c hmem] at hcapital
          cases hcapital
      · exact ih hmem
    · next hd =>
      rcases List.mem_cons.mp hmem with heq | hmem
      · exact absurd (heq ▸ hcapital) hd
      · exact ih hmem

/-- What a second pass writes is kept by a third one. -/
theorem isKept_snakeAfter (chars : List Char) : IsKept none none (snakeAfter none chars) := by
  refine isKept_none_iff.mpr fun p c after hsuffix hlate => ?_
  have hlone : ∀ d ∈ p :: c :: after, isUppercase d = true → isLone d = true :=
    fun d hd => isLone_of_mem_snakeAfter (hsuffix.subset hd)
  rcases hlate.seen with hsmall | ⟨-, n, rest, hafter, hcapital, hnot, -⟩
  · rw [lower_of_isLone (hlone p (by simp) hlate.behind)] at hsmall
    simp [not_isLowercase_of_isUppercase hlate.behind] at hsmall
  · rw [hlone n (by simp [hafter]) hcapital] at hnot
    cases hnot

theorem snakeCase_snakeCase_eq_iff (s : String) :
    snakeCase (snakeCase s) = snakeCase s ↔ IsKept none none s.toList := by
  simp [snakeCase, IsKept, ← String.toList_inj]

/-- Snake case is kept by a second pass exactly if that begins no word late, so of every name in
which each capital has a small letter. In any case it is kept by a third one. -/
theorem snakeCase_idempotent_iff (s : String) :
    (snakeCase (snakeCase s) = snakeCase s ↔
      ∀ p c after, p :: c :: after <:+ s.toList → ¬ BeginsLate p c after) ∧
    snakeCase (snakeCase (snakeCase s)) = snakeCase (snakeCase s) := by
  constructor
  · rw [snakeCase_snakeCase_eq_iff, isKept_none_iff]
  · rw [snakeCase_snakeCase_eq_iff, snakeCase, String.toList_ofList]
    exact isKept_snakeAfter s.toList

/-- The letter for the real numbers has no small letter. -/
theorem snakeCase_not_idempotent_reals :
    ¬ ∀ s, isIdentifier s = true → snakeCase (snakeCase s) = snakeCase s := by
  have hname : isIdentifier "Mℝ" = true := by decide +kernel
  have htwice : snakeCase (snakeCase "Mℝ") ≠ snakeCase "Mℝ" := by decide +kernel
  intro h
  exact htwice (h "Mℝ" hname)

end TypedPrefs.Naming
