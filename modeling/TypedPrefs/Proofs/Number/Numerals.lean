import Mathlib.Data.List.TakeWhile
import TypedPrefs.Number.Numeral
import TypedPrefs.Proofs.Number.Decimals
import TypedPrefs.Proofs.Number.Literals

/-!
# Numerals

Digits spell the number that they were written for, with or without a point and an exponent. So the
text of a number spells a decimal that rounds to that number.
-/

namespace TypedPrefs.Number

/-! ## Digits -/

theorem parseNatural?_eq_some_iff {s : List Char} {n : ℕ} :
    parseNatural? s = some n ↔ IsDigits s ∧ n = Nat.ofDigitChars 10 s 0 := by
  have hvalue : s.foldl (fun n c => 10 * n + (c.toNat - 48)) 0 = Nat.ofDigitChars 10 s 0 :=
    Nat.ofDigitChars_eq_foldl.symm
  have hdigits : IsDigits s ↔ ¬ ((s.isEmpty || !s.all Char.isDigit) = true) := by
    simp [IsDigits]
  rw [parseNatural?, hvalue, hdigits]
  split
  · next h => simp [h]
  · next h => simp [h, eq_comm]

theorem parseNatural?_digitChars (n : ℕ) : parseNatural? (digitChars n) = some n :=
  parseNatural?_eq_some_iff.mpr ⟨isDigits_digitChars n, Nat.ofDigitChars_ten_toDigits.symm⟩

theorem IsDigits.not_mem {s : List Char} (hs : IsDigits s) {c : Char} (hc : c.isDigit = false) :
    c ∉ s := fun hmem => by
  rw [hs.2 c hmem] at hc
  cases hc

/-- Digits do not begin with a sign. -/
theorem IsDigits.parseInteger? {s : List Char} (hs : IsDigits s) :
    parseInteger? s = (parseNatural? s).map Int.ofNat := by
  have hminus : '-' ∉ s := hs.not_mem (by decide)
  have hplus : '+' ∉ s := hs.not_mem (by decide)
  rw [Number.parseInteger?.eq_def]
  split
  · exact absurd List.mem_cons_self hminus
  · exact absurd List.mem_cons_self hplus
  · rfl

theorem parseInteger?_repr (i : ℤ) : parseInteger? i.repr.toList = some i := by
  cases i with
  | ofNat n =>
    have htext : (Int.repr (Int.ofNat n)).toList = digitChars n := by simp [Int.repr, digitChars]
    rw [htext, (isDigits_digitChars n).parseInteger?, parseNatural?_digitChars]
    rfl
  | negSucc n =>
    have htext : (Int.repr (Int.negSucc n)).toList = '-' :: digitChars n.succ := by
      simp [Int.repr, digitChars]
    rw [htext, Number.parseInteger?, parseNatural?_digitChars]
    rfl

/-- Digits behind a sign or not, and the integer that they spell. -/
inductive IsSignedDecimal : List Char → ℤ → Prop
  | plain {digits : List Char} :
      IsDigits digits → IsSignedDecimal digits (Nat.ofDigitChars 10 digits 0)
  | plus {digits : List Char} :
      IsDigits digits → IsSignedDecimal ('+' :: digits) (Nat.ofDigitChars 10 digits 0)
  | minus {digits : List Char} :
      IsDigits digits → IsSignedDecimal ('-' :: digits) (-(Nat.ofDigitChars 10 digits 0 : ℤ))

theorem parseInteger?_eq_some_iff {s : List Char} {i : ℤ} :
    parseInteger? s = some i ↔ IsSignedDecimal s i := by
  constructor
  · intro h
    rw [parseInteger?.eq_def] at h
    split at h
    · obtain ⟨_, hcast, rfl⟩ := Option.map_eq_some_iff.mp h
      obtain ⟨n, hn, hcast⟩ := Option.bind_eq_some_iff.mp hcast
      cases hcast
      obtain ⟨hdigits, rfl⟩ := parseNatural?_eq_some_iff.mp hn
      exact .minus hdigits
    · obtain ⟨n, hn, rfl⟩ := Option.map_eq_some_iff.mp h
      obtain ⟨hdigits, rfl⟩ := parseNatural?_eq_some_iff.mp hn
      exact .plus hdigits
    · obtain ⟨n, hn, rfl⟩ := Option.map_eq_some_iff.mp h
      obtain ⟨hdigits, rfl⟩ := parseNatural?_eq_some_iff.mp hn
      exact .plain hdigits
  · intro h
    cases h with
    | plain hdigits =>
      rw [hdigits.parseInteger?, parseNatural?_eq_some_iff.mpr ⟨hdigits, rfl⟩]
      rfl
    | plus hdigits | minus hdigits =>
      rw [parseInteger?, parseNatural?_eq_some_iff.mpr ⟨hdigits, rfl⟩]
      rfl

/-! ## Marks -/

theorem splitAtMark_of_not_mem {mark : Char} {s : List Char} (h : mark ∉ s) :
    splitAtMark mark s = (s, none) := by
  have hall : ∀ c ∈ s, (c != mark) = true := fun c hc => by
    simpa using fun heq : c = mark => h (heq ▸ hc)
  rw [splitAtMark, List.takeWhile_eq_self_iff.mpr hall, List.dropWhile_eq_nil_iff.mpr hall]

theorem splitAtMark_append {mark : Char} {s : List Char} (t : List Char) (h : mark ∉ s) :
    splitAtMark mark (s ++ mark :: t) = (s, some t) := by
  have hall : ∀ c ∈ s, (c != mark) = true := fun c hc => by
    simpa using fun heq : c = mark => h (heq ▸ hc)
  rw [splitAtMark, List.takeWhile_append_of_pos hall, List.dropWhile_append_of_pos hall]
  simp

namespace Decimal

variable {d : Decimal}

/-- A numeral without an exponent: digits with a point among them. -/
theorem ofChars?_point {whole places : List Char} (hwhole : ∀ c ∈ whole, c.isDigit = true)
    (hplaces : IsDigits places) :
    ofChars? (whole ++ '.' :: places) =
      some ⟨Nat.ofDigitChars 10 (whole ++ places) 0, -places.length⟩ := by
  have hdigits : IsDigits (whole ++ places) := hplaces.append_of_left hwhole
  have hnone : 'e' ∉ whole ++ '.' :: places := by
    have hmark := hdigits.not_mem (c := 'e') (by decide)
    simp only [List.mem_append, List.mem_cons, not_or] at hmark ⊢
    exact ⟨hmark.1, by decide, hmark.2⟩
  have hpoint : '.' ∉ whole := fun hmem => absurd (hwhole _ hmem) (by decide)
  rw [ofChars?, splitAtMark_of_not_mem hnone]
  dsimp only
  rw [splitAtMark_append _ hpoint]
  simp [parseNatural?_eq_some_iff.mpr ⟨hdigits, rfl⟩]

/-- A numeral with an exponent, which may have a point. -/
theorem ofChars?_exponent {whole places : List Char} (hwhole : IsDigits whole)
    (hplaces : ∀ c ∈ places, c.isDigit = true) (e : ℤ) :
    ofChars? (whole ++ (if places.isEmpty then [] else '.' :: places) ++
        'e' :: (toString e).toList) =
      some ⟨Nat.ofDigitChars 10 (whole ++ places) 0, e - places.length⟩ := by
  have hdigits : IsDigits (whole ++ places) := hwhole.append hplaces
  have hmark := hdigits.not_mem (c := 'e') (by decide)
  have hpoint : '.' ∉ whole := hwhole.not_mem (by decide)
  have hnumber := parseNatural?_eq_some_iff.mpr ⟨hdigits, rfl⟩
  simp only [List.mem_append, not_or] at hmark
  by_cases hempty : places = []
  · subst hempty
    rw [List.append_nil] at hnumber ⊢
    rw [List.isEmpty_nil, if_pos rfl, List.append_nil, ofChars?, splitAtMark_append _ hmark.1]
    dsimp only
    rw [splitAtMark_of_not_mem hpoint]
    simp [hnumber, parseInteger?_repr]
  · have hnone : 'e' ∉ whole ++ '.' :: places := by
      simp only [List.mem_append, List.mem_cons, not_or]
      exact ⟨hmark.1, by decide, hmark.2⟩
    rw [if_neg (by simpa using hempty), ofChars?, splitAtMark_append _ hnone]
    dsimp only
    rw [splitAtMark_append _ hpoint]
    simp [hnumber, parseInteger?_repr]

/-- Digits without a fraction, before a point and a zero. -/
theorem value_of_positional_whole (h : 0 ≤ d.exponent) :
    ∃ e, ofChars? (d.positionalChars ++ ['.', '0']) = some e ∧ e.value = d.value := by
  refine ⟨_, ofChars?_point (isDigits_positionalChars h).2 ⟨by simp, by simp⟩, ?_⟩
  obtain ⟨k, hk⟩ := Int.eq_ofNat_of_zero_le h
  rw [positionalChars]
  dsimp only
  rw [if_pos h, value, value, Nat.ofDigitChars_append, Nat.ofDigitChars_append, digitChars,
    Nat.ofDigitChars_ten_toDigits, Nat.ofDigitChars_replicate_zero, hk, Int.toNat_natCast]
  simp [Nat.ofDigitChars_cons]
  ring

theorem value_of_positional_fraction (h : d.exponent < 0) :
    ∃ e, ofChars? d.positionalChars = some e ∧ e.value = d.value := by
  have hdigits := isDigits_digitChars d.digits
  rw [positionalChars]
  dsimp only
  rw [if_neg (by omega)]
  split
  · next hplaces =>
    generalize hpoint : (digitChars d.digits).length - (-d.exponent).toNat = point
    refine ⟨_, ofChars?_point (fun c hc => hdigits.2 c (List.mem_of_mem_take hc))
      (hdigits.drop (n := point) (by omega)), ?_⟩
    rw [value, value, List.take_append_drop, List.length_drop, digitChars,
      Nat.ofDigitChars_ten_toDigits]
    congr 2
    rw [digitChars] at hpoint hplaces
    dsimp only
    omega
  · have hzero : ∀ c ∈ ['0'], c.isDigit = true := by simp
    refine ⟨_, ofChars?_point hzero (hdigits.append_of_left isDigit_replicate_zero), ?_⟩
    have hzeros : Nat.ofDigitChars 10
        (['0'] ++ (List.replicate ((-d.exponent).toNat - (digitChars d.digits).length) '0' ++
          digitChars d.digits)) 0 = d.digits := by
      rw [Nat.ofDigitChars_append, Nat.ofDigitChars_append, Nat.ofDigitChars_cons,
        Nat.ofDigitChars_nil, Nat.ofDigitChars_replicate_zero]
      exact Nat.ofDigitChars_ten_toDigits
    rw [value, value, hzeros, List.length_append, List.length_replicate]
    congr 2
    dsimp only
    omega

theorem value_of_exponential (d : Decimal) :
    ∃ e, ofChars? d.exponentialChars = some e ∧ e.value = d.value := by
  have hdigits := isDigits_digitChars d.digits
  refine ⟨_, ofChars?_exponent (hdigits.take Nat.one_pos)
    (fun c hc => hdigits.2 c (List.mem_of_mem_drop hc)) _, ?_⟩
  rw [value, value, List.take_append_drop, List.length_drop, digitChars,
    Nat.ofDigitChars_ten_toDigits]
  congr 2
  ring

end Decimal

/-! ## Numbers -/

/-- The text of a magnitude spells the decimal that stands for it. -/
theorem Format.exists_ofChars?_precise (f : Format) (n : ℕ) :
    ∃ d, Decimal.ofChars? (f.precise n).toList = some d ∧ d.value = (f.toDecimal n).value := by
  rw [Format.precise, String.toList_ofList]
  split
  · exact Decimal.value_of_exponential _
  · split
    · next h => exact Decimal.value_of_positional_whole h
    · next h => exact Decimal.value_of_positional_fraction (by omega)

/-- **A number is read back from its text.** -/
theorem Format.IsOrdinary.roundDecimal_precise {f : Format} (hf : f.IsOrdinary) {n : ℕ}
    (hn : n < f.infinity) :
    ∃ d, Decimal.ofChars? (f.precise n).toList = some d ∧
      f.roundDecimal d.digits d.exponent = n := by
  obtain ⟨d, hd, hvalue⟩ := f.exists_ofChars?_precise n
  refine ⟨d, hd, hf.roundDecimal_eq ?_ hn⟩
  rw [hvalue]
  exact Format.isNearest_toDecimal hf.precision n

end TypedPrefs.Number
