import TypedPrefs.Proofs.Naming.Case

/-!
# Capitals and small letters

No character is both a capital and a small letter, and no capital is a digit. The lower case of a
character is a small letter or the character itself, except for a capital I with a dot, which
becomes a small one and a dot of its own. Among the capitals that stay as they are, since there is
no small letter for them, are the letters of mathematics.
-/

namespace TypedPrefs.Text

/-! ## Spans -/

theorem exists_of_inSpans {spans : List Span} {c : Nat} (h : inSpans spans c = true) :
    ∃ s ∈ spans, s.first ≤ c ∧ c ≤ s.last ∧ (c - s.first) % s.step = 0 := by
  induction spans with
  | nil => simp [inSpans] at h
  | cons s rest ih =>
    rw [inSpans] at h
    split at h
    · next hlast =>
      simp only [Bool.and_eq_true, decide_eq_true_eq, beq_iff_eq] at h
      exact ⟨s, List.mem_cons_self, h.1, hlast, h.2⟩
    · obtain ⟨t, ht, hc⟩ := ih h
      exact ⟨t, List.mem_cons_of_mem _ ht, hc⟩

/-- Spans that end before a code point do not count for it. -/
theorem inSpans_dropWhile_before {m c : Nat} (h : m ≤ c) (spans : List Span) :
    inSpans (spans.dropWhile (·.last < m)) c = inSpans spans c := by
  induction spans with
  | nil => rfl
  | cons s rest ih =>
    by_cases hbefore : s.last < m
    · have hbehind : ¬ c ≤ s.last := by omega
      rw [List.dropWhile_cons, if_pos (by simpa using hbefore), ih, inSpans, if_neg hbehind]
    · rw [List.dropWhile_cons, if_neg (by simpa using hbefore)]

/-- Whether a span goes by even steps, or has no second code point. -/
def Span.goesByTwos (s : Span) : Bool := s.first == s.last || s.step % 2 == 0

/-- Whether two spans have no code point in common: one of them ends before the other begins, or
both go by twos from beginnings of which one is even and one is odd. -/
def Span.isApart (s t : Span) : Bool :=
  s.last < t.first || t.last < s.first ||
    (s.goesByTwos && t.goesByTwos && (s.first + t.first) % 2 == 1)

/-- Whether two lists of spans have no code point in common, in so many steps. The spans that a
code point can meet first are compared, and the one that ends first is left behind. -/
def areApart : Nat → List Span → List Span → Bool
  | 0, _, _ => false
  | _ + 1, [], _ => true
  | _ + 1, _ :: _, [] => true
  | fuel + 1, s :: ss, t :: ts =>
    s.isApart t &&
      if s.last < t.last then areApart fuel ss (t :: ts) else areApart fuel (s :: ss) ts

/-- All code points of a span that goes by twos are even, or all are odd. -/
theorem Span.even_of_goesByTwos {s : Span} (h : s.goesByTwos = true) {c : Nat}
    (hfirst : s.first ≤ c) (hlast : c ≤ s.last) (hstep : (c - s.first) % s.step = 0) :
    (c - s.first) % 2 = 0 := by
  rw [goesByTwos, Bool.or_eq_true, beq_iff_eq, beq_iff_eq] at h
  rcases h with hsingle | heven
  · have hzero : c - s.first = 0 := by omega
    rw [hzero]
  · have hdvd := Nat.dvd_trans (Nat.dvd_of_mod_eq_zero heven) (Nat.dvd_of_mod_eq_zero hstep)
    exact Nat.mod_eq_zero_of_dvd hdvd

/-- Spans that are apart have no code point in common. -/
theorem Span.not_mem_of_isApart {s t : Span} (h : s.isApart t = true) {c : Nat}
    (hs : s.first ≤ c ∧ c ≤ s.last ∧ (c - s.first) % s.step = 0)
    (ht : t.first ≤ c ∧ c ≤ t.last ∧ (c - t.first) % t.step = 0) : False := by
  obtain ⟨hfirst, hlast, hstep⟩ := hs
  obtain ⟨hfirst', hlast', hstep'⟩ := ht
  simp only [isApart, Bool.or_eq_true, decide_eq_true_eq, Bool.and_eq_true, beq_iff_eq] at h
  rcases h with (hbefore | hbehind) | ⟨⟨htwos, htwos'⟩, hodd⟩
  · omega
  · omega
  · have heven := even_of_goesByTwos htwos hfirst hlast hstep
    have heven' := even_of_goesByTwos htwos' hfirst' hlast' hstep'
    omega

theorem inSpans_cons_iff {s : Span} {rest : List Span} {c : Nat} :
    inSpans (s :: rest) c = true ↔
      (s.first ≤ c ∧ c ≤ s.last ∧ (c - s.first) % s.step = 0) ∨
        s.last < c ∧ inSpans rest c = true := by
  rw [inSpans]
  by_cases hlast : c ≤ s.last
  · have hnot : ¬ s.last < c := by omega
    simp [hlast, hnot]
  · have hlt : s.last < c := by omega
    simp [hlast, hlt]

/-- Lists of spans that are apart have no code point in common. -/
theorem not_inSpans_of_areApart {fuel : Nat} {ss ts : List Span}
    (hapart : areApart fuel ss ts = true) {c : Nat} (hs : inSpans ss c = true) :
    inSpans ts c = false := by
  refine Bool.eq_false_iff.mpr fun ht => ?_
  induction fuel generalizing ss ts with
  | zero => cases hapart
  | succ fuel ih =>
    cases ss with
    | nil => cases hs
    | cons s ss =>
      cases ts with
      | nil => cases ht
      | cons t ts =>
        rw [areApart, Bool.and_eq_true] at hapart
        obtain ⟨hfirst, hrest⟩ := hapart
        rcases inSpans_cons_iff.mp hs with hs' | ⟨hbehind, hs'⟩
        · rcases inSpans_cons_iff.mp ht with ht' | ⟨hbehind', ht'⟩
          · exact Span.not_mem_of_isApart hfirst hs' ht'
          · -- the second span is left behind
            have hless : ¬ s.last < t.last := by omega
            rw [if_neg hless] at hrest
            exact ih hrest hs ht'
        · rcases inSpans_cons_iff.mp ht with ht' | ⟨hbehind', ht'⟩
          · have hless : s.last < t.last := by omega
            rw [if_pos hless] at hrest
            exact ih hrest hs' ht
          · split at hrest
            · exact ih hrest hs' ht
            · exact ih hrest hs ht'

/-! ## Characters -/

/-- The tables agree: no code point is listed as a capital and as a small letter, the code points of
small letters are those of characters, and the images of the runs are small letters. -/
theorem caseTables_agree :
    areApart 400 uppercaseSpans lowercaseSpans = true ∧
    (∀ s ∈ lowercaseSpans, s.last < 0xD800 ∨ 0xDFFF < s.first ∧ s.last < 0x110000) ∧
    ∀ r ∈ lowerRuns,
      let later := lowercaseSpans.dropWhile (·.last < r.image)
      ∀ k < (r.span.last - r.span.first) / r.span.step + 1,
        inSpans later (r.image + r.span.step * k) = true := by
  decide +kernel

theorem not_isLowercase_of_isUppercase {c : Char} (h : isUppercase c = true) :
    isLowercase c = false :=
  not_inSpans_of_areApart caseTables_agree.1 h

theorem not_isUppercase_of_isLowercase {c : Char} (h : isLowercase c = true) :
    isUppercase c = false := by
  refine Bool.eq_false_iff.mpr fun hcapital => ?_
  rw [not_isLowercase_of_isUppercase hcapital] at h
  cases h

theorem not_isDigit_of_isUppercase {c : Char} (h : isUppercase c = true) : c.isDigit = false := by
  -- the capitals begin behind the digits
  have hbehind : 0x41 ≤ c.toNat := by
    rw [isUppercase, uppercaseSpans] at h
    rcases inSpans_cons_iff.mp h with ⟨hfirst, -⟩ | ⟨hlast, -⟩
    · exact hfirst
    · exact Nat.le_trans (by decide) (Nat.le_of_lt hlast)
  refine Bool.eq_false_iff.mpr fun hdigit => ?_
  rw [Char.isDigit, Bool.and_eq_true, decide_eq_true_eq, decide_eq_true_eq] at hdigit
  exact absurd (Nat.le_trans hbehind hdigit.2) (by decide)

theorem isLowercase_ofNat {n : Nat} (h : inSpans lowercaseSpans n = true) :
    isLowercase (Char.ofNat n) = true := by
  obtain ⟨s, hs, hle, hlast, -⟩ := exists_of_inSpans h
  have hchar : n.isValidChar := by
    have hspan := caseTables_agree.2.1 s hs
    unfold Nat.isValidChar
    omega
  have htoNat : (Char.ofNat n).toNat = n := by
    rw [Char.ofNat, dif_pos hchar]
    rfl
  rwa [isLowercase, htoNat]

/-- The image of a code point under the lower case of single characters is a small letter. -/
theorem isLowercase_of_imageIn {c image : Nat} (h : imageIn lowerRuns c = some image) :
    isLowercase (Char.ofNat image) = true := by
  obtain ⟨r, hr, hin, heq⟩ := exists_of_imageIn h
  have himage := caseTables_agree.2.2 r hr ((c - r.span.first) / r.span.step)
    (Nat.lt_succ_of_le (Nat.div_le_div_right (Nat.sub_le_sub_right hin.2.1 _)))
  rw [inSpans_dropWhile_before (Nat.le_add_right _ _),
    Nat.mul_div_cancel' (Nat.dvd_of_mod_eq_zero hin.2.2), ← heq] at himage
  exact isLowercase_ofNat himage

theorem not_isUppercase_underscore : isUppercase '_' = false := by decide

theorem not_isLowercase_underscore : isLowercase '_' = false := by decide

/-- What a character becomes in lower case. -/
theorem lower_cases (c : Char) : lower c = [c] ∨ (∃ l, lower c = [l] ∧ isLowercase l = true) ∨
    lower c = ['i', '\u0307'] := by
  rw [lower, mapCase]
  split
  · next image himage =>
    obtain ⟨before, after, heq, -⟩ := List.lookup_eq_some_iff.mp himage
    have hmem : (c.toNat, image) ∈ lowerExpansions := by simp [heq]
    obtain ⟨-, rfl⟩ := Prod.mk.inj (List.mem_singleton.mp hmem)
    exact .inr (.inr rfl)
  · split
    · next image himage => exact .inr (.inl ⟨_, rfl, isLowercase_of_imageIn himage⟩)
    · exact .inl rfl

end TypedPrefs.Text
