import TypedPrefs.Code.Literal
import TypedPrefs.Text.Quoted

/-!
# String literals are read back

A text is written as a literal character by character, each as itself or as an escape. The reader
of literals takes every one of these forms back to its character, so a literal is read as the text
that it was written for.
-/

namespace TypedPrefs.Code.Literal

open Text

/-! ## Escapes by code point -/

theorem hexValue?_digitChar {d : Nat} (h : d < 16) : hexValue? d.digitChar = some d := by
  decide +revert

/-- Hexadecimal digits add up to their number. The induction is on the number, so it takes the last
digit off. -/
theorem bracedValue?_hexDigits (rest : List Char) {n : Nat} (h : (hexDigits n).length ≤ 6) :
    bracedValue? 0 0 (hexDigits n ++ rest) = bracedValue? n (hexDigits n).length rest := by
  induction n using Nat.strongRecOn generalizing rest with
  | ind n ih =>
    by_cases hn : n < 16
    · have hdigits : hexDigits n = [n.digitChar] := Nat.toDigits_of_lt_base hn
      simp [hdigits, bracedValue?, hexValue?_digitChar hn]
    · have hdigits : hexDigits n = hexDigits (n / 16) ++ [(n % 16).digitChar] :=
        Nat.toDigits_of_base_le (by omega) (by omega)
      have hlength : (hexDigits n).length = (hexDigits (n / 16)).length + 1 := by
        rw [hdigits, List.length_append, List.length_singleton]
      have hlast := hexValue?_digitChar (Nat.mod_lt n (show 16 > 0 by omega))
      rw [hlength, hdigits, List.append_assoc, ih (n / 16) (by omega) _ (by omega)]
      simp only [List.singleton_append, bracedValue?, hlast]
      rw [if_neg (by omega), Nat.div_add_mod]

theorem codePoint?_hexDigits (c : Char) (rest : List Char) :
    codePoint? ('\x7b' :: (hexDigits c.toNat ++ '\x7d' :: rest)) = some (c.toNat, rest) := by
  have hvalid : c.toNat.isValidChar := c.valid
  have hlength : (hexDigits c.toNat).length ≤ 6 := by
    refine (Nat.length_toDigits_le_iff (by omega) (by omega)).mpr ?_
    have hlt : c.toNat < 0x110000 := by
      rcases hvalid with h | h <;> omega
    omega
  have hpos : (hexDigits c.toNat).length ≠ 0 := Nat.pos_iff_ne_zero.mp Nat.length_toDigits_pos
  have hbrace : hexValue? '\x7d' = none := by decide
  rw [codePoint?, bracedValue?_hexDigits _ hlength]
  simp [bracedValue?, hbrace, hpos, hvalid]

/-! ## One character -/

variable {c : Char} {fuel : Nat}

/-- A character that is no mark of the reader stands for itself. -/
theorem cooked?_self (rest : List Char) (hquote : c ≠ '"') (hreturn : c ≠ '\r')
    (hbackslash : c ≠ '\\') :
    cooked? .text (fuel + 1) (c :: rest) =
      (cooked? .text fuel rest).map fun (v, r) => (c :: v, r) := by
  rw [cooked?.eq_def]
  split <;> simp_all

/-- The short escapes. -/
theorem cooked?_short (rest : List Char) {letter : Char} (hbyte : letter ≠ 'x')
    (hpoint : letter ≠ 'u') (h : shortEscape? .text letter = some c) :
    cooked? .text (fuel + 1) ('\\' :: letter :: rest) =
      (cooked? .text fuel rest).map fun (v, r) => (c :: v, r) := by
  have hfeed : letter ≠ '\n' := by
    rintro rfl
    simp [shortEscape?] at h
  have hreturn : letter ≠ '\r' := by
    rintro rfl
    simp [shortEscape?] at h
  rw [cooked?.eq_def]
  split <;> simp_all

theorem cooked?_codePointEscape (c : Char) (rest : List Char) :
    cooked? .text (fuel + 1) (codePointEscape c ++ rest) =
      (cooked? .text fuel rest).map fun (v, r) => (c :: v, r) := by
  have hpoint := codePoint?_hexDigits c rest
  rw [codePointEscape, cooked?.eq_def]
  simp [hpoint]

theorem cooked?_encodeChar (c : Char) (rest : List Char) :
    cooked? .text (fuel + 1) (Text.Literal.encodeChar c ++ rest) =
      (cooked? .text fuel rest).map fun (v, r) => (c :: v, r) := by
  rw [Text.Literal.encodeChar]
  split
  · next h =>
    subst h
    exact cooked?_short rest (by decide) (by decide) (by decide)
  · next hquote =>
    split
    · next h =>
      subst h
      exact cooked?_short rest (by decide) (by decide) (by decide)
    · next hbackslash =>
      split
      · next h =>
        subst h
        exact cooked?_short rest (by decide) (by decide) (by decide)
      · split
        · next h =>
          subst h
          exact cooked?_short rest (by decide) (by decide) (by decide)
        · next hreturn =>
          split
          · next h =>
            subst h
            exact cooked?_short rest (by decide) (by decide) (by decide)
          · split
            · exact cooked?_self rest hquote hreturn hbackslash
            · exact cooked?_codePointEscape c rest

theorem length_encodeChar_pos (c : Char) : 0 < (Text.Literal.encodeChar c).length := by
  rw [Text.Literal.encodeChar, codePointEscape]
  repeat' split
  all_goals simp

/-! ## Texts -/

/-- A null character is written with the short escape, or in hexadecimal before an octal digit. -/
theorem encode_null (s : List Char) :
    Text.Literal.encode ('\x00' :: s) = '\\' :: '0' :: Text.Literal.encode s ∨
      Text.Literal.encode ('\x00' :: s) =
        '\\' :: 'x' :: '0' :: '0' :: Text.Literal.encode s := by
  cases s with
  | nil => exact .inl rfl
  | cons d s =>
    rw [Text.Literal.encode, if_pos rfl]
    split
    · exact .inr rfl
    · exact .inl rfl

theorem cooked?_encode (s rest : List Char) (h : (Text.Literal.encode s).length < fuel) :
    cooked? .text fuel (Text.Literal.encode s ++ '"' :: rest) = some (s, rest) := by
  induction s generalizing fuel with
  | nil =>
    obtain ⟨fuel, rfl⟩ : ∃ n, fuel = n + 1 := ⟨fuel - 1, by omega⟩
    rfl
  | cons c s ih =>
    obtain ⟨fuel, rfl⟩ : ∃ n, fuel = n + 1 := ⟨fuel - 1, by omega⟩
    by_cases hnull : c = '\x00'
    · subst hnull
      rcases encode_null s with hencode | hencode
      · simp only [hencode, List.length_cons] at h
        rw [hencode, List.cons_append, List.cons_append,
          cooked?_short (c := '\x00') _ (by decide) (by decide) (by decide), ih (by omega)]
        rfl
      · simp only [hencode, List.length_cons] at h
        have hbyte : byteEscape? .text '0' '0' = some 0 := by decide
        rw [hencode, cooked?.eq_def]
        simp only [List.cons_append, hbyte]
        rw [ih (by omega)]
        rfl
    · have hencode : Text.Literal.encode (c :: s) =
          Text.Literal.encodeChar c ++ Text.Literal.encode s := by
        rw [Text.Literal.encode.eq_def]
        exact if_neg hnull
      have hpos := length_encodeChar_pos c
      rw [hencode, List.length_append] at h
      rw [hencode, List.append_assoc, cooked?_encodeChar, ih (by omega)]
      rfl

/-- **A literal is read as the text that it was written for.** Nothing is left over. -/
theorem string?_literal (s : String) :
    string? (literal s).toList = some (.text, s.toList, []) := by
  have htext : (literal s).toList = '"' :: (Text.Literal.encode s.toList ++ ['"']) := by
    rw [literal, String.toList_ofList]
    rfl
  have hread : cooked? .text ('"' :: (Text.Literal.encode s.toList ++ ['"'])).length
      (Text.Literal.encode s.toList ++ ['"']) = some (s.toList, []) :=
    cooked?_encode _ _ (by rw [List.length_cons, List.length_append]; omega)
  rw [htext]
  simp only [string?, hread]
  rfl

end TypedPrefs.Code.Literal
