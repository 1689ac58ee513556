import TypedPrefs.Number.Layout

/-!
# Numbers as literals

The digits of a number, with a suffix behind them, form a literal of code. So does the text of a
finite number that is no integer, which has a point between digits, an exponent behind them, or
both.
-/

namespace TypedPrefs.Number

/-- A row of decimal digits, at least one. -/
def IsDigits (s : List Char) : Prop := s ≠ [] ∧ ∀ c ∈ s, c.isDigit = true

/-- A point with digits behind it. -/
def IsFraction (s : List Char) : Prop := ∃ digits, IsDigits digits ∧ s = '.' :: digits

/-- The letter of an exponent with digits behind it, perhaps with a minus sign in between. -/
def IsExponent (s : List Char) : Prop :=
  ∃ digits, IsDigits digits ∧ (s = 'e' :: digits ∨ s = 'e' :: '-' :: digits)

/-- A number that is written with a point or an exponent: digits, then a fraction, an exponent or
both. -/
def IsDecimalText (s : List Char) : Prop :=
  ∃ whole fraction exponent, IsDigits whole ∧ (fraction = [] ∨ IsFraction fraction) ∧
    (exponent = [] ∨ IsExponent exponent) ∧ fraction ++ exponent ≠ [] ∧
    s = whole ++ fraction ++ exponent

theorem isDigits_digitChars (n : Nat) : IsDigits (digitChars n) :=
  ⟨Nat.toDigits_ne_nil, fun _ => Nat.isDigit_of_mem_toDigits (by decide) (by decide)⟩

theorem IsDigits.append {s t : List Char} (hs : IsDigits s) (ht : ∀ c ∈ t, c.isDigit = true) :
    IsDigits (s ++ t) :=
  ⟨by simp [hs.1], List.forall_mem_append.mpr ⟨hs.2, ht⟩⟩

theorem IsDigits.append_of_left {s t : List Char} (ht : IsDigits t)
    (hs : ∀ c ∈ s, c.isDigit = true) : IsDigits (s ++ t) :=
  ⟨by simp [ht.1], List.forall_mem_append.mpr ⟨hs, ht.2⟩⟩

theorem IsDigits.take {s : List Char} (hs : IsDigits s) {n : Nat} (hn : 0 < n) :
    IsDigits (s.take n) :=
  ⟨by simp [hs.1, Nat.pos_iff_ne_zero.mp hn], fun c hc => hs.2 c (List.mem_of_mem_take hc)⟩

theorem IsDigits.drop {s : List Char} (hs : IsDigits s) {n : Nat} (hn : n < s.length) :
    IsDigits (s.drop n) :=
  ⟨by simpa using hn, fun c hc => hs.2 c (List.mem_of_mem_drop hc)⟩

theorem isDigit_replicate_zero {n : Nat} : ∀ c ∈ List.replicate n '0', c.isDigit = true := by
  intro c hc
  rw [List.eq_of_mem_replicate hc]
  decide

namespace Decimal

/-- Without a negative exponent there is no fraction. -/
theorem isDigits_positionalChars {d : Decimal} (h : 0 ≤ d.exponent) :
    IsDigits d.positionalChars := by
  rw [positionalChars]
  dsimp only
  rw [if_pos h]
  exact (isDigits_digitChars _).append isDigit_replicate_zero

theorem isDecimalText_positionalChars {d : Decimal} (h : d.exponent < 0) :
    IsDecimalText d.positionalChars := by
  have hdigits := isDigits_digitChars d.digits
  rw [positionalChars]
  dsimp only
  rw [if_neg (by omega)]
  split
  · next hplaces =>
    generalize hpoint : (digitChars d.digits).length - (-d.exponent).toNat = point
    exact ⟨_, _, [], hdigits.take (n := point) (by omega),
      .inr ⟨_, hdigits.drop (n := point) (by omega), rfl⟩, .inl rfl, by simp, by simp⟩
  · exact ⟨['0'], _, [], ⟨by simp, by simp⟩, .inr ⟨_, hdigits.append_of_left
      (isDigit_replicate_zero (n := (-d.exponent).toNat - (digitChars d.digits).length)), rfl⟩,
      .inl rfl, by simp, by simp⟩

theorem isExponent_toString (e : Int) : IsExponent ('e' :: (toString e).toList) := by
  rw [Int.toString_eq_repr]
  cases e with
  | ofNat m => exact ⟨_, isDigits_digitChars m, .inl (by simp [Int.repr, digitChars])⟩
  | negSucc m => exact ⟨_, isDigits_digitChars m.succ, .inr (by simp [Int.repr, digitChars])⟩

theorem isDecimalText_exponentialChars (d : Decimal) : IsDecimalText d.exponentialChars := by
  have hdigits := isDigits_digitChars d.digits
  refine ⟨_, _, _, hdigits.take Nat.one_pos, ?_, .inr (isExponent_toString _), by simp, rfl⟩
  split
  · exact .inl rfl
  · next hmore =>
    refine .inr ⟨_, ⟨?_, fun c hc => hdigits.2 c (List.mem_of_mem_drop hc)⟩, rfl⟩
    simpa using hmore

end Decimal

/-- The text of a finite magnitude has a point or an exponent. -/
theorem isDecimalText_precise (f : Format) (n : Nat) : IsDecimalText (f.precise n).toList := by
  rw [Format.precise, String.toList_ofList]
  split
  · exact Decimal.isDecimalText_exponentialChars _
  · split
    · next h =>
      exact ⟨_, ['.', '0'], [], Decimal.isDigits_positionalChars h,
        .inr ⟨['0'], ⟨by simp, by simp⟩, rfl⟩, .inl rfl, by simp, by simp⟩
    · next h => exact Decimal.isDecimalText_positionalChars (by omega)

end TypedPrefs.Number
