import Mathlib.Tactic.SplitIfs
import TypedPrefs.Proofs.Code.StringLiterals

/-!
# Quotations are read back

A text in documentation quotes has escapes for quotation marks, backslashes and control characters.
So the closing quotation mark is the first one that no escape makes part of the text, and a reader
that goes from left to right gets the text back, whatever characters an escape is followed by.
-/

namespace TypedPrefs.Text.Quoted

open Code.Literal

/-! ## Decoding -/

/-- What a letter behind a backslash stands for. -/
def escaped? : Char → Option Char
  | '"' => some '"'
  | '\\' => some '\\'
  | 'n' => some '\n'
  | 'r' => some '\r'
  | 't' => some '\t'
  | '0' => some '\x00'
  | _ => none

/-- An escape by code point ends behind its beginning. -/
theorem length_of_bracedValue? {value count n : Nat} {s rest : List Char}
    (h : bracedValue? value count s = some (n, rest)) : rest.length < s.length := by
  fun_induction bracedValue? value count s with
  | case3 _ _ _ _ _ _ _ ih => exact Nat.lt_succ_of_lt (ih h)
  | case5 _ _ _ _ _ ih => exact Nat.lt_succ_of_lt (ih h)
  | case6 =>
    cases h
    exact Nat.lt_succ_self _
  | _ => cases h

theorem length_of_codePoint? {n : Nat} {s rest : List Char} (h : codePoint? s = some (n, rest)) :
    rest.length < s.length := by
  unfold codePoint? at h
  split at h
  · exact Nat.lt_succ_of_lt (length_of_bracedValue? h)
  · cases h

/-- The text that the characters between two quotation marks stand for, read from left to right. A
quotation mark or a control character stands for nothing by itself. -/
def decode : List Char → Option (List Char)
  | [] => some []
  | '\\' :: 'u' :: rest =>
    match h : codePoint? rest with
    | some (value, behind) =>
      have := length_of_codePoint? h
      (decode behind).map (Char.ofNat value :: ·)
    | none => none
  | '\\' :: c :: rest =>
    match escaped? c with
    | some e => (decode rest).map (e :: ·)
    | none => none
  | c :: rest =>
    if c = '\\' || c = '"' || isControl c then none else (decode rest).map (c :: ·)
termination_by s => s.length

theorem decode_codePointEscape (c : Char) (rest : List Char) :
    decode (codePointEscape c ++ rest) = (decode rest).map (c :: ·) := by
  have hpoint := codePoint?_hexDigits c rest
  have hvalue : Char.ofNat c.toNat = c := Char.ofNat_toNat c
  simp only [codePointEscape, List.cons_append, List.nil_append, List.append_assoc]
  rw [decode]
  split
  · next value behind heq =>
    rw [hpoint] at heq
    cases heq
    rw [hvalue]
  · next heq =>
    rw [hpoint] at heq
    cases heq

theorem decode_escaped {letter c : Char} (h : escaped? letter = some c) (rest : List Char) :
    decode ('\\' :: letter :: rest) = (decode rest).map (c :: ·) := by
  have hpoint : letter ≠ 'u' := by
    rintro rfl
    cases h
  rw [decode]
  · rw [h]
  · exact hpoint

theorem decode_self {c : Char} (hbackslash : c ≠ '\\') (hquote : c ≠ '"')
    (hcontrol : isControl c = false) (rest : List Char) :
    decode (c :: rest) = (decode rest).map (c :: ·) := by
  rw [decode]
  · simp [hbackslash, hquote, hcontrol]
  · rintro _ rfl _
    exact hbackslash rfl
  · rintro _ _ rfl _
    exact hbackslash rfl

/-! ## One character -/

/-- The three ways to write a character. -/
inductive IsEncoded (c : Char) : List Char → Prop
  /-- By a letter behind a backslash. -/
  | letter {l : Char} : escaped? l = some c → IsEncoded c ['\\', l]
  | codePoint : isControl c = true → IsEncoded c (codePointEscape c)
  /-- As itself. -/
  | self : c ≠ '\\' → c ≠ '"' → isControl c = false → IsEncoded c [c]

theorem isEncoded_encodeChar (c : Char) : IsEncoded c (encodeChar c) := by
  unfold encodeChar
  split_ifs with hquote hbackslash hfeed hreturn htab hnull hcontrol
  · exact .letter (by rw [hquote]; rfl)
  · exact .letter (by rw [hbackslash]; rfl)
  · exact .letter (by rw [hfeed]; rfl)
  · exact .letter (by rw [hreturn]; rfl)
  · exact .letter (by rw [htab]; rfl)
  · exact .letter (by rw [hnull]; rfl)
  · exact .codePoint hcontrol
  · exact .self hbackslash hquote (Bool.eq_false_iff.mpr hcontrol)

section

variable {c : Char} {e : List Char}

theorem IsEncoded.decode_append (h : IsEncoded c e) (rest : List Char) :
    decode (e ++ rest) = (decode rest).map (c :: ·) := by
  cases h with
  | letter hletter => exact decode_escaped hletter rest
  | codePoint _ => exact decode_codePointEscape c rest
  | self hbackslash hquote hcontrol => exact decode_self hbackslash hquote hcontrol rest

/-- The letters behind backslashes are among those of literals in code. -/
theorem shortEscape?_of_escaped? {l : Char} (h : escaped? l = some c) :
    l ≠ 'x' ∧ l ≠ 'u' ∧ shortEscape? .text l = some c := by
  unfold escaped? at h
  split at h <;> cases h <;> decide

theorem IsEncoded.cooked?_append (h : IsEncoded c e) {fuel : Nat} (rest : List Char) :
    cooked? .text (fuel + 1) (e ++ rest) =
      (cooked? .text fuel rest).map fun (v, r) => (c :: v, r) := by
  cases h with
  | letter hletter =>
    obtain ⟨hbyte, hpoint, hshort⟩ := shortEscape?_of_escaped? hletter
    exact cooked?_short rest hbyte hpoint hshort
  | codePoint _ => exact cooked?_codePointEscape c rest
  | self hbackslash hquote hcontrol =>
    have hreturn : c ≠ '\r' := by
      rintro rfl
      cases hcontrol
    exact cooked?_self rest hquote hreturn hbackslash

end

/-! ## Characters between the quotation marks -/

theorem exists_of_mem_hexDigits {n : Nat} {d : Char} (hd : d ∈ hexDigits n) :
    ∃ k < 16, d = Nat.digitChar k := by
  induction n using Nat.strongRecOn with
  | ind n ih =>
    by_cases hn : n < 16
    · rw [hexDigits, Nat.toDigits_of_lt_base hn, List.mem_singleton] at hd
      exact ⟨n, hn, hd⟩
    · rw [hexDigits, Nat.toDigits_of_base_le (by omega) (by omega), List.mem_append] at hd
      rcases hd with hd | hd
      · exact ih (n / 16) (by omega) hd
      · exact ⟨n % 16, by omega, List.mem_singleton.mp hd⟩

/-- An escape by code point has neither control characters nor quotation marks. -/
theorem of_mem_codePointEscape {c d : Char} (hd : d ∈ codePointEscape c) :
    isControl d = false ∧ d ≠ '"' := by
  have hdigits : ∀ k < 16, isControl (Nat.digitChar k) = false ∧ Nat.digitChar k ≠ '"' := by decide
  simp only [codePointEscape, List.mem_append, List.mem_cons, List.not_mem_nil, or_false] at hd
  rcases hd with ((rfl | rfl | rfl) | hd) | rfl
  · decide
  · decide
  · decide
  · obtain ⟨k, hk, rfl⟩ := exists_of_mem_hexDigits hd
    exact hdigits k hk
  · decide

section

variable {c : Char} {e : List Char}

theorem IsEncoded.not_isControl (h : IsEncoded c e) : ∀ d ∈ e, isControl d = false := by
  intro d hd
  cases h with
  | @letter l hletter =>
    rw [List.mem_cons, List.mem_singleton] at hd
    rcases hd with rfl | rfl
    · decide
    · unfold escaped? at hletter
      split at hletter <;> cases hletter <;> decide
  | codePoint _ => exact (of_mem_codePointEscape hd).1
  | self _ _ hcontrol => exact List.mem_singleton.mp hd ▸ hcontrol

/-- A quotation mark is only written behind a backslash. -/
theorem IsEncoded.eq_of_quote (h : IsEncoded c e) {before after : List Char}
    (he : e = before ++ '"' :: after) : before = ['\\'] := by
  cases h with
  | letter hletter =>
    match before with
    | [] => simp at he
    | [b] => rw [(List.cons.inj he).1]
    | _ :: _ :: _ => simp at he
  | codePoint _ =>
    have hmem : '"' ∈ codePointEscape c := by simp [he]
    exact absurd rfl (of_mem_codePointEscape hmem).2
  | self _ hquote _ =>
    have hmem : '"' ∈ [c] := by simp [he]
    exact absurd (List.mem_singleton.mp hmem).symm hquote

end

/-- How many backslashes stand at the end of a text. -/
def finalBackslashes (s : List Char) : Nat := (s.reverse.takeWhile (· == '\\')).length

theorem finalBackslashes_concat (s : List Char) (c : Char) :
    finalBackslashes (s ++ [c]) = if c = '\\' then finalBackslashes s + 1 else 0 := by
  by_cases hc : c = '\\' <;> simp [finalBackslashes, hc]

/-- Behind a character as it is written no escape is open. -/
theorem IsEncoded.even_finalBackslashes {c : Char} {e s : List Char} (h : IsEncoded c e)
    (hs : finalBackslashes s % 2 = 0) : finalBackslashes (s ++ e) % 2 = 0 := by
  cases h with
  | @letter l _ =>
    rw [show s ++ ['\\', l] = (s ++ ['\\']) ++ [l] by simp, finalBackslashes_concat,
      finalBackslashes_concat, if_pos rfl]
    split <;> omega
  | codePoint _ =>
    rw [codePointEscape, ← List.append_assoc, finalBackslashes_concat]
    rfl
  | self hbackslash _ _ =>
    rw [finalBackslashes_concat, if_neg hbackslash]

/-! ## Texts -/

theorem encode_cons (c : Char) (s : List Char) : encode (c :: s) = encodeChar c ++ encode s :=
  List.flatMap_cons

theorem decode_encode (s : List Char) : decode (encode s) = some s := by
  induction s with
  | nil => rw [encode, List.flatMap_nil, decode]
  | cons c s ih =>
    rw [encode_cons, (isEncoded_encodeChar c).decode_append, ih]
    rfl

theorem even_finalBackslashes_append_encode {before : List Char}
    (hbefore : finalBackslashes before % 2 = 0) (s : List Char) :
    finalBackslashes (before ++ encode s) % 2 = 0 := by
  induction s generalizing before with
  | nil => simpa [encode] using hbefore
  | cons c s ih =>
    rw [encode_cons, ← List.append_assoc]
    exact ih ((isEncoded_encodeChar c).even_finalBackslashes hbefore)

/-- A quotation mark stands behind what is written for the characters before it, and a backslash. -/
theorem exists_of_quote_mem_encode {s before after : List Char}
    (h : encode s = before ++ '"' :: after) : ∃ s', before = encode s' ++ ['\\'] := by
  induction s generalizing before with
  | nil => simp [encode] at h
  | cons c s ih =>
    rw [encode_cons, List.append_eq_append_iff] at h
    rcases h with ⟨more, rfl, hrest⟩ | ⟨more, hchar, hrest⟩
    · obtain ⟨s', rfl⟩ := ih hrest
      exact ⟨c :: s', by rw [encode_cons, List.append_assoc]⟩
    · cases more with
      | nil =>
        -- the mark is the first character of what is written for `s`
        have hfront : encode s = [] ++ '"' :: after := by simpa using hrest.symm
        obtain ⟨s', hs'⟩ := ih hfront
        simp at hs'
      | cons d more =>
        obtain ⟨rfl, -⟩ := List.cons.inj hrest
        exact ⟨[], (isEncoded_encodeChar c).eq_of_quote hchar⟩

theorem length_encodeChar_pos (c : Char) : 0 < (encodeChar c).length := by
  have h := isEncoded_encodeChar c
  generalize encodeChar c = e at h
  cases h <;> simp [codePointEscape]

theorem cooked?_encode (s rest : List Char) {fuel : Nat} (h : (encode s).length < fuel) :
    cooked? .text fuel (encode s ++ '"' :: rest) = some (s, rest) := by
  induction s generalizing fuel with
  | nil =>
    obtain ⟨fuel, rfl⟩ : ∃ n, fuel = n + 1 := ⟨fuel - 1, by omega⟩
    rfl
  | cons c s ih =>
    obtain ⟨fuel, rfl⟩ : ∃ n, fuel = n + 1 := ⟨fuel - 1, by omega⟩
    have hpos := length_encodeChar_pos c
    rw [encode_cons, List.length_append] at h
    rw [encode_cons, List.append_assoc, (isEncoded_encodeChar c).cooked?_append, ih (by omega)]
    rfl

theorem toList_quote (s : String) : (quote s).toList = '"' :: (encode s.toList ++ ['"']) := by
  rw [quote, String.toList_ofList]
  rfl

/-- A quotation is a literal of code, with nothing behind it. -/
theorem string?_quote (s : String) : string? (quote s).toList = some (.text, s.toList, []) := by
  have hread : cooked? .text ('"' :: (encode s.toList ++ ['"'])).length
      (encode s.toList ++ ['"']) = some (s.toList, []) :=
    cooked?_encode _ _ (by rw [List.length_cons, List.length_append]; omega)
  rw [toList_quote]
  simp only [string?, hread]
  rfl

/-- **Quotations lose nothing.** Between its quotation marks a quotation has no control character,
and every quotation mark there has an odd number of backslashes before it, so that it is escaped.
The characters between the marks are decoded from left to right to the text, and the reader of code
takes the whole quotation for a literal of this value. So different texts have different
quotations. -/
theorem quote_lossless (s : String) :
    ∃ body, (quote s).toList = '"' :: (body ++ ['"']) ∧
      (∀ c ∈ body, isControl c = false) ∧
      (∀ before after, body = before ++ '"' :: after → finalBackslashes before % 2 = 1) ∧
      decode body = some s.toList ∧
      string? (quote s).toList = some (.text, s.toList, []) ∧
      ∀ s', quote s' = quote s → s' = s := by
  refine ⟨encode s.toList, toList_quote s, ?_, ?_, decode_encode s.toList, string?_quote s, ?_⟩
  · intro d hd
    obtain ⟨c, -, hd⟩ := List.mem_flatMap.mp hd
    exact (isEncoded_encodeChar c).not_isControl d hd
  · intro before after hbody
    obtain ⟨s', rfl⟩ := exists_of_quote_mem_encode hbody
    have heven : finalBackslashes ([] ++ encode s') % 2 = 0 :=
      even_finalBackslashes_append_encode rfl s'
    rw [List.nil_append] at heven
    rw [finalBackslashes_concat, if_pos rfl]
    omega
  · intro s' heq
    have hread := string?_quote s'
    rw [heq, string?_quote s] at hread
    have hchars : s.toList = s'.toList := by simpa using hread
    exact String.toList_inj.mp hchars.symm

/-- Escapes before characters that look like their continuation. -/
example : quote "\x00\x31\\\"\x01{7}" = "\"\\0\x31\\\\\\\"\\u{1}{7}\"" := by decide

end TypedPrefs.Text.Quoted
