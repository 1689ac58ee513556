import Mathlib.Data.List.TakeWhile
import TypedPrefs.Proofs.Code.Words

/-!
# Reading words and marks off a text

A text is cut into tokens from the front. A word ends where a character stands that no name has,
unless this is a quote or a number sign: behind some letters these begin a literal. A mark of
punctuation is a token by itself. So a text that is written token by token, with such characters
between words, is cut into these tokens again.
-/

namespace TypedPrefs

open Naming Text

/-! ## Characters -/

namespace Text

/-- The characters that begin or end something else than a name. -/
def foreignChars : List Char :=
  ['~', '!', '@', '#', '$', '%', '^', '&', '*', '-', '=', '+', '|', ';', ':', ',', '<', '.', '>',
    '/', '?', '\'', '"', '(', ')', '[', ']', '\x7b', '\x7d', '\u200e', '\u200f', '\ufeff']

theorem isNamePart_eq_false_of_foreign {d : Char} (hd : d ∈ foreignChars) :
    isNamePart d = false := by
  have hall : (foreignChars.all fun d => !isNamePart d) = true := by decide +kernel
  simpa using List.all_eq_true.mp hall d hd

theorem ne_of_foreign {c d : Char} (hc : isNamePart c = true) (hd : d ∈ foreignChars) : c ≠ d := by
  rintro rfl
  rw [isNamePart_eq_false_of_foreign hd] at hc
  cases hc

/-- A character that separates words is no part of a name. -/
theorem not_isNamePart_of_isBlank {c : Char} (h : isBlank c = true) : isNamePart c = false := by
  have hcodes : ∀ n ∈ List.range' 0x9 5 ++ List.range' 0x2000 11 ++
      [0x20, 0x85, 0xA0, 0x1680, 0x2028, 0x2029, 0x202F, 0x205F, 0x3000],
      inSpans identifierContinueSpans n = false := by decide +kernel
  apply hcodes
  simp only [isBlank, Bool.or_eq_true, Bool.and_eq_true, decide_eq_true_eq, beq_iff_eq] at h
  simp only [List.mem_append, List.mem_range'_1, List.mem_cons, List.not_mem_nil, or_false]
  omega

/-- The letters that literals of strings begin with. -/
def stringLetters : List Char := ['b', 'c', 'r']

theorem isNameStart_of_stringLetters {c : Char} (h : c ∈ stringLetters) : isNameStart c = true := by
  have hall : stringLetters.all isNameStart = true := by decide
  exact List.all_eq_true.mp hall c h

theorem isNamePart_of_stringLetters {c : Char} (h : c ∈ stringLetters) : isNamePart c = true :=
  isNamePart_of_isNameStart (isNameStart_of_stringLetters h)

/-- No name begins with a digit. -/
theorem not_isDigit_of_isNameStart {c : Char} (h : isNameStart c = true) : c.isDigit = false := by
  have hcodes : ∀ n ∈ List.range' 48 10, inSpans identifierStartSpans n = false := by
    decide
  rw [isNameStart, Bool.or_eq_true, beq_iff_eq] at h
  rcases h with rfl | h
  · decide
  · refine Bool.eq_false_iff.mpr fun hdigit => ?_
    have hrange : 48 ≤ c.toNat ∧ c.toNat ≤ 57 := by
      simpa [Char.isDigit, UInt32.le_iff_toNat_le] using hdigit
    have hnone := hcodes c.toNat (by rw [List.mem_range'_1]; omega)
    rw [h] at hnone
    cases hnone

end Text

namespace Code

/-! ## Words and what may follow them -/

/-- The characters that may belong to a literal together with the letters before them. -/
def quotingChars : List Char := ['"', '\'', '#']

/-- What follows is no part of a word, nor of a literal that begins like one. -/
def EndsWord (after : List Char) : Prop :=
  ∀ d ∈ after.head?, isNamePart d = false ∧ d ∉ quotingChars

/-- The characters that names may have, up to where words end. -/
def Unquoted (s : List Char) : Prop :=
  ∃ parts after, s = parts ++ after ∧ (∀ d ∈ parts, isNamePart d = true) ∧ EndsWord after

section Beginning

variable {c : Char} {rest s : List Char}

theorem endsWord_nil : EndsWord [] := nofun

/-- The characters that are written around words. -/
def separators : List Char := [' ', ':', '<', '>', ',']

theorem endsWord_of_separator (hc : c ∈ separators) : EndsWord (c :: s) := by
  rintro d ⟨⟩
  simp only [separators, List.mem_cons, List.not_mem_nil, or_false] at hc
  refine ⟨?_, by rcases hc with rfl | rfl | rfl | rfl | rfl <;> decide⟩
  obtain rfl | hmark := hc
  · exact not_isNamePart_of_isBlank (by decide)
  · exact isNamePart_eq_false_of_foreign (by rcases hmark with rfl | rfl | rfl | rfl <;> decide)

theorem not_mem_quotingChars (hpart : isNamePart c = true) : c ∉ quotingChars := by
  intro hmem
  have hforeign : quotingChars ⊆ foreignChars := by simp [quotingChars, foreignChars]
  exact ne_of_foreign hpart (hforeign hmem) rfl

theorem Unquoted.head (h : Unquoted s) : ∀ d ∈ s.head?, d ∉ quotingChars := by
  obtain ⟨parts, after, rfl, hparts, hafter⟩ := h
  intro d hd
  cases parts with
  | nil => exact (hafter d hd).2
  | cons e parts =>
    cases hd
    exact not_mem_quotingChars (hparts d List.mem_cons_self)

theorem Unquoted.tail (h : Unquoted (c :: s)) (hpart : isNamePart c = true) : Unquoted s := by
  obtain ⟨parts, after, heq, hparts, hafter⟩ := h
  cases parts with
  | nil =>
    obtain rfl : c :: s = after := heq
    have hother := (hafter c rfl).1
    rw [hpart] at hother
    cases hother
  | cons d parts =>
    obtain ⟨rfl, rfl⟩ := List.cons.inj heq
    exact ⟨parts, after, rfl, fun e he => hparts e (List.mem_cons_of_mem _ he), hafter⟩

/-! ## No literals -/

namespace Literal

/-- The letters of a raw string must have a quote or a number sign behind them. -/
theorem hashed?_eq_none (kind : StringKind) (h : Unquoted s) : hashed? kind s = none := by
  cases s with
  | nil => rfl
  | cons d more =>
    have hd : d ∉ quotingChars := h.head d rfl
    simp only [quotingChars, List.mem_cons, List.not_mem_nil, or_false, not_or] at hd
    simp [hashed?, hd]

theorem string?_eq_none (h : Unquoted s) : string? s = none := by
  have hr : isNamePart 'r' = true := isNamePart_of_stringLetters (by decide)
  have hb : isNamePart 'b' = true := isNamePart_of_stringLetters (by decide)
  have hc : isNamePart 'c' = true := isNamePart_of_stringLetters (by decide)
  have hquote : '"' ∈ quotingChars := by decide
  unfold string?
  split
  · exact absurd hquote (h.head _ rfl)
  · rw [hashed?_eq_none _ (h.tail hr)]
    rfl
  · exact absurd hquote ((h.tail hb).head _ rfl)
  · rw [hashed?_eq_none _ ((h.tail hb).tail hr)]
    rfl
  · exact absurd hquote ((h.tail hc).head _ rfl)
  · rw [hashed?_eq_none _ ((h.tail hc).tail hr)]
    rfl
  · rfl

theorem afterFraction?_eq_none (hdigit : c.isDigit = false) :
    afterFraction? (c :: rest) = none := by
  simp [afterFraction?, hdigit]

/-- A letter that is a digit of another base stands for ten or more. -/
theorem le_of_hexValue? {digit : Nat} (hdigit : c.isDigit = false) (h : hexValue? c = some digit) :
    10 ≤ digit := by
  have hlower : 'a' ≤ c → 97 ≤ c.toNat := fun hle => UInt32.le_iff_toNat_le.mp hle
  have hupper : 'A' ≤ c → 65 ≤ c.toNat := fun hle => UInt32.le_iff_toNat_le.mp hle
  unfold hexValue? at h
  split at h
  · next hrange =>
    have htrue : c.isDigit = true := hrange
    rw [hdigit] at htrue
    cases htrue
  · split at h
    · next hrange =>
      simp only [Bool.and_eq_true, decide_eq_true_eq] at hrange
      have hle := hlower hrange.1
      cases h
      omega
    · split at h
      · next hrange =>
        simp only [Bool.and_eq_true, decide_eq_true_eq] at hrange
        have hle := hupper hrange.1
        cases h
        omega
      · cases h

theorem afterInteger?_eq_none (hdigit : c.isDigit = false) :
    afterInteger? (c :: rest) = none := by
  have hzero : c ≠ '0' := by
    rintro rfl
    revert hdigit
    decide
  have hwhole : afterWhole? 10 false (c :: rest) = none := by
    rw [afterWhole?]
    split
    · rfl
    · split
      · next digit hvalue =>
        have hle := le_of_hexValue? hdigit hvalue
        rw [if_neg (by omega), hdigit]
        rfl
      · rfl
  unfold afterInteger?
  split
  · next heq => exact absurd (List.head_eq_of_cons_eq heq) hzero
  · next heq => exact absurd (List.head_eq_of_cons_eq heq) hzero
  · next heq => exact absurd (List.head_eq_of_cons_eq heq) hzero
  · exact hwhole

/-- No literal begins here if there is neither a string nor a character in quotes nor a number. -/
theorem after?_eq_none_of (hstring : string? (c :: rest) = none) (hdigit : c.isDigit = false)
    (hquote : c ≠ '\'') (hbyte : c = 'b' → rest.head? ≠ some '\'') :
    after? (c :: rest) = none := by
  unfold after?
  rw [hstring, afterFraction?_eq_none hdigit, afterInteger?_eq_none hdigit]
  dsimp only
  split
  · next heq => split at heq <;> simp_all
  · rfl

/-- No literal begins with the characters of a name. -/
theorem after?_eq_none (hstart : isNameStart c = true) (h : Unquoted (c :: rest)) :
    after? (c :: rest) = none := by
  have hquote : '\'' ∈ quotingChars := by decide
  refine after?_eq_none_of (string?_eq_none h) (not_isDigit_of_isNameStart hstart) ?_ ?_
  · rintro rfl
    exact h.head _ rfl hquote
  · intro _ hhead
    exact (h.tail (isNamePart_of_isNameStart hstart)).head _ hhead hquote

/-- The mark of raw identifiers begins no literal in front of a name. -/
theorem after?_raw_eq_none (hstart : isNameStart c = true) :
    after? ('r' :: '#' :: c :: rest) = none := by
  have hpart := isNamePart_of_isNameStart hstart
  have hsign : c ≠ '#' := ne_of_foreign hpart (by decide)
  have hquote : c ≠ '"' := ne_of_foreign hpart (by decide)
  refine after?_eq_none_of ?_ (by decide) (by decide) (fun h => absurd h (by decide))
  simp [string?, hashed?, hsign, hquote]

end Literal

/-! ## Single tokens -/

namespace Lexer

theorem comment?_eq_none (hslash : c ≠ '/') : comment? (c :: rest) = none := by
  unfold comment?
  split <;> first | rfl | next heq => exact absurd (List.head_eq_of_cons_eq heq) hslash

/-- Marks are no parts of names. -/
theorem beginsMark_eq_false (hpart : isNamePart c = true) : beginsMark (c :: rest) = false := by
  have hmarks : "~!@#$%^&*-=+|;:,<.>/?'".toList ⊆ foreignChars := by simp [foreignChars]
  have hnone : isMark c = false := by
    refine Bool.eq_false_iff.mpr fun hmark => ?_
    exact ne_of_foreign hpart (hmarks (List.contains_iff_mem.mp hmark)) rfl
  unfold beginsMark
  split <;> simp_all

theorem mark?_eq_none (hpart : isNamePart c = true) : mark? (c :: rest) = none := by
  have hquote : c ≠ '\'' := ne_of_foreign hpart (by decide)
  unfold mark?
  split
  · next heq => exact absurd (List.head_eq_of_cons_eq heq) hquote
  · next heq =>
    obtain ⟨rfl, rfl⟩ := List.cons.inj heq
    rw [beginsMark_eq_false hpart]
    rfl
  · next heq => cases heq

/-- What is made of letters and quotes and stands here has no quotes. -/
theorem not_mem_quotingChars_of_prefix {l : List Char}
    (hl : ∀ d ∈ l, isNamePart d = true ∨ d ∈ quotingChars) (h : Unquoted s) (hbefore : l <+: s) :
    ∀ d ∈ l, d ∉ quotingChars := by
  induction l generalizing s with
  | nil => exact nofun
  | cons d l ih =>
    obtain ⟨more, rfl⟩ := hbefore
    obtain ⟨hd, hl⟩ := List.forall_mem_cons.mp hl
    have hhead : d ∉ quotingChars := h.head d rfl
    refine List.forall_mem_cons.mpr ⟨hhead, ih hl (h.tail (hd.resolve_right hhead)) ?_⟩
    exact List.prefix_append l more

/-- All beginnings of literals have a quote or a number sign. -/
theorem literalBeginnings_eq_false (h : Unquoted s) :
    literalBeginnings.any (·.isPrefixOf s) = false := by
  have hletters : (literalBeginnings.all fun l =>
      l.all fun d => stringLetters.contains d || quotingChars.contains d) = true := by decide
  have hquoted : (literalBeginnings.all fun l => l.any quotingChars.contains) = true := by decide
  rw [List.any_eq_false]
  intro l hl hbefore
  obtain ⟨d, hd, hquote⟩ := List.any_eq_true.mp (List.all_eq_true.mp hquoted l hl)
  have hchars : ∀ e ∈ l, isNamePart e = true ∨ e ∈ quotingChars := by
    intro e he
    have hone : e ∈ stringLetters ∨ e ∈ quotingChars := by
      simpa using List.all_eq_true.mp (List.all_eq_true.mp hletters l hl) e he
    exact hone.imp_left isNamePart_of_stringLetters
  exact not_mem_quotingChars_of_prefix hchars h (List.isPrefixOf_iff_prefix.mp hbefore) d hd
    (List.contains_iff_mem.mp hquote)

/-- A name is read up to where it ends. -/
theorem name?_append (hstart : isNameStart c = true) (hparts : ∀ d ∈ rest, isNamePart d = true)
    {after : List Char} (hafter : EndsWord after) :
    name? (c :: (rest ++ after)) = some (c :: rest, after) := by
  have hend : after.takeWhile isNamePart = [] ∧ after.dropWhile isNamePart = after := by
    cases after with
    | nil => exact ⟨rfl, rfl⟩
    | cons d after =>
      have hd := (hafter d rfl).1
      simp [hd]
  rw [name?, if_pos hstart, List.takeWhile_append_of_pos hparts,
    List.dropWhile_append_of_pos hparts, hend.1, hend.2, List.append_nil]

theorem word?_eq_some (hstart : isNameStart c = true) (hparts : ∀ d ∈ rest, isNamePart d = true)
    {after : List Char} (hafter : EndsWord after) :
    word? (c :: (rest ++ after)) = some (.word (String.ofList (c :: rest)), after) := by
  have hpart := isNamePart_of_isNameStart hstart
  have hunquoted : Unquoted (c :: (rest ++ after)) :=
    ⟨c :: rest, after, rfl, List.forall_mem_cons.mpr ⟨hpart, hparts⟩, hafter⟩
  unfold word?
  rw [literalBeginnings_eq_false hunquoted, if_neg Bool.false_ne_true]
  split
  · next heq =>
    obtain ⟨-, hsign⟩ := List.cons.inj heq
    exact absurd (by decide) ((hunquoted.tail hpart).head '#' (by rw [hsign]; rfl))
  · rw [name?_append hstart hparts hafter]
    rfl

theorem word?_raw_eq_some (hstart : isNameStart c = true)
    (hparts : ∀ d ∈ rest, isNamePart d = true) (hform : String.ofList (c :: rest) ∉ plainNames)
    {after : List Char} (hafter : EndsWord after) :
    word? ('r' :: '#' :: c :: (rest ++ after)) =
      some (.word ("r#" ++ String.ofList (c :: rest)), after) := by
  have hpart := isNamePart_of_isNameStart hstart
  have hsign : ('#' == c) = false := beq_false_of_ne (ne_of_foreign hpart (by decide)).symm
  have hquote : ('"' == c) = false := beq_false_of_ne (ne_of_foreign hpart (by decide)).symm
  have hnone :
      literalBeginnings.any (·.isPrefixOf ('r' :: '#' :: c :: (rest ++ after))) = false := by
    simp [literalBeginnings, List.isPrefixOf, hsign, hquote]
  have hraw :
      ["_", "super", "self", "Self", "crate"].contains (String.ofList (c :: rest)) = false :=
    Bool.eq_false_iff.mpr fun h => hform (List.contains_iff_mem.mp h)
  have hword : String.ofList ('r' :: '#' :: c :: rest) = "r#" ++ String.ofList (c :: rest) := by
    simp [← String.toList_inj]
  unfold word?
  rw [hnone, if_neg Bool.false_ne_true]
  split
  · next more heq =>
    obtain rfl : c :: (rest ++ after) = more := (List.cons.inj (List.cons.inj heq).2).2
    rw [name?_append hstart hparts hafter]
    dsimp only
    rw [hraw, if_neg Bool.false_ne_true, hword]
  · next hother => exact absurd rfl (hother _)

/-- The characters of brackets. -/
def bracketChars : List Char := ['(', '[', '\x7b', ')', ']', '\x7d']

/-- One token is read, and the lexemes behind it. -/
theorem lexemes?_token {t : Token} {after : List Char} (hspace : isSpace c = false)
    (hslash : c ≠ '/') (hbracket : c ∉ bracketChars)
    (htoken : token? (c :: rest) = some (t, after)) (fuel : Nat) :
    lexemes? (fuel + 1) (c :: rest) = (lexemes? fuel after).map (.token t :: ·) := by
  simp only [bracketChars, List.mem_cons, List.not_mem_nil, or_false, not_or] at hbracket
  rw [lexemes?, hspace, if_neg Bool.false_ne_true, comment?_eq_none hslash]
  dsimp only
  split
  iterate 6 simp_all
  rw [htoken]

theorem isSpace_eq_false (hpart : isNamePart c = true) : isSpace c = false := by
  refine Bool.eq_false_iff.mpr fun h => ?_
  rw [isSpace, Bool.or_eq_true, Bool.or_eq_true, beq_iff_eq, beq_iff_eq] at h
  rcases h with (h | rfl) | rfl
  · rw [not_isNamePart_of_isBlank h] at hpart
    cases hpart
  · exact ne_of_foreign hpart (d := '\u200e') (by decide) rfl
  · exact ne_of_foreign hpart (d := '\u200f') (by decide) rfl

/-- Trees without brackets are the tokens themselves. -/
theorem trees?_tokens (done ts : List Token) :
    trees? [] done (ts.map .token) = some (done.reverse ++ ts) := by
  induction ts generalizing done with
  | nil => simp [trees?]
  | cons t ts ih =>
    rw [List.map_cons, trees?, ih]
    simp

end Lexer

end Beginning

/-! ## Texts without brackets -/

open Lexer

/-- The text is cut into these tokens. -/
def Lexes (cs : List Char) (ts : List Token) : Prop :=
  ∀ fuel, cs.length < fuel → lexemes? fuel cs = some (ts.map .token)

theorem lexes_nil : Lexes [] [] := by
  rintro (_ | fuel) hfuel
  · cases hfuel
  · rfl

variable {c : Char} {rest cs : List Char} {ts : List Token}

theorem Lexes.blank (h : Lexes cs ts) : Lexes (' ' :: cs) ts := by
  rintro (_ | fuel) hfuel
  · cases hfuel
  · rw [lexemes?, if_pos (by decide)]
    exact h fuel (Nat.lt_of_succ_lt_succ hfuel)

/-- A text begins with one token, and the others are behind it. -/
theorem Lexes.token {t : Token} (hspace : isSpace c = false) (hslash : c ≠ '/')
    (hbracket : c ∉ bracketChars) (htoken : token? (c :: rest) = some (t, cs))
    (hlength : cs.length ≤ rest.length) (h : Lexes cs ts) : Lexes (c :: rest) (t :: ts) := by
  rintro (_ | fuel) hfuel
  · cases hfuel
  · have hless : cs.length < fuel := Nat.lt_of_le_of_lt hlength (Nat.lt_of_succ_lt_succ hfuel)
    rw [lexemes?_token hspace hslash hbracket htoken, h fuel hless]
    rfl

/-! ### Marks -/

/-- The marks of punctuation between words. -/
def plainMarks : List Char := [':', '<', '>', ',', '+']

theorem token?_mark (hc : c ∈ plainMarks) (cs : List Char) :
    token? (c :: cs) = some (.mark c (beginsMark cs), cs) := by
  have hall : (plainMarks.all fun d => !d.isDigit && isMark d &&
      !(['"', 'r', 'b', 'c', '\'', '/'].contains d)) = true := by decide
  have hthis := List.all_eq_true.mp hall c hc
  rw [Bool.and_eq_true, Bool.and_eq_true, Bool.not_eq_true', Bool.not_eq_true'] at hthis
  obtain ⟨⟨hdigit, hmark⟩, hother⟩ := hthis
  simp only [List.contains_eq_mem, decide_eq_false_iff_not, List.mem_cons, List.not_mem_nil,
    or_false, not_or] at hother
  obtain ⟨hquote, hr, hb, hc, hapostrophe, hslash⟩ := hother
  have hstring : Literal.string? (c :: cs) = none := by
    unfold Literal.string?
    split <;> first | rfl | simp_all
  have hbegins : beginsMark (c :: cs) = true := by
    unfold beginsMark
    split <;> simp_all
  have hliteral : Literal.after? (c :: cs) = none :=
    Literal.after?_eq_none_of hstring hdigit hapostrophe fun heq => absurd heq hb
  have hread : mark? (c :: cs) = some (.mark c (beginsMark cs), cs) := by
    unfold mark?
    split <;> simp_all
  rw [token?, hliteral]
  dsimp only
  rw [hread]

theorem Lexes.mark (hc : c ∈ plainMarks) (h : Lexes cs ts) :
    Lexes (c :: cs) (.mark c (beginsMark cs) :: ts) := by
  have hall :
      (plainMarks.all fun d => !isSpace d && d != '/' && !bracketChars.contains d) = true := by
    decide
  obtain ⟨⟨hspace, hslash⟩, hbracket⟩ := by simpa using List.all_eq_true.mp hall c hc
  exact .token hspace hslash hbracket (token?_mark hc cs) (Nat.le_refl _) h

/-! ### Words -/

/-- A word is cut off that begins like a name and is no literal. -/
theorem Lexes.word_of {t : Token} (hstart : isNameStart c = true)
    (hliteral : Literal.after? (c :: (rest ++ cs)) = none)
    (hword : word? (c :: (rest ++ cs)) = some (t, cs)) (h : Lexes cs ts) :
    Lexes (c :: (rest ++ cs)) (t :: ts) := by
  have hpart := isNamePart_of_isNameStart hstart
  have hforeign : bracketChars ⊆ foreignChars := by simp [bracketChars, foreignChars]
  refine .token (isSpace_eq_false hpart) (ne_of_foreign hpart (by decide)) ?_ ?_ (by simp) h
  · exact fun hmem => ne_of_foreign hpart (hforeign hmem) rfl
  · rw [token?, hliteral, mark?_eq_none hpart]
    exact hword

theorem exists_chars_of_isIdentifier {name : String} (h : isIdentifier name = true) :
    ∃ c rest, name.toList = c :: rest ∧ isNameStart c = true ∧ ∀ d ∈ rest, isNamePart d = true := by
  obtain ⟨c, rest, hchars⟩ := List.exists_cons_of_ne_nil (ne_empty_of_isIdentifier h)
  rw [isIdentifier, hchars, isIdentifierChars, Bool.and_eq_true] at h
  exact ⟨c, rest, hchars, h.1, List.all_eq_true.mp h.2⟩

theorem IsLexed.exists_cons {w : String} (hw : IsLexed w) :
    ∃ c rest, w.toList = c :: rest ∧ isNamePart c = true := by
  cases hw with
  | plain hname =>
    obtain ⟨c, rest, hchars, hstart, -⟩ := exists_chars_of_isIdentifier hname
    exact ⟨c, rest, hchars, isNamePart_of_isNameStart hstart⟩
  | @raw name hname hform =>
    exact ⟨'r', '#' :: name.toList, by simp, isNamePart_of_stringLetters (by decide)⟩

/-- A word is cut off in front of anything that it does not run into. -/
theorem Lexes.word {w : String} (hw : IsLexed w) (hend : EndsWord cs) (h : Lexes cs ts) :
    Lexes (w.toList ++ cs) (.word w :: ts) := by
  cases hw with
  | plain hname =>
    obtain ⟨c, rest, hchars, hstart, hparts⟩ := exists_chars_of_isIdentifier hname
    have hunquoted : Unquoted (c :: (rest ++ cs)) := by
      refine ⟨c :: rest, cs, rfl, List.forall_mem_cons.mpr ⟨?_, hparts⟩, hend⟩
      exact isNamePart_of_isNameStart hstart
    have hword := word?_eq_some hstart hparts hend
    rw [← hchars, String.ofList_toList] at hword
    rw [hchars]
    exact .word_of hstart (Literal.after?_eq_none hstart hunquoted) hword h
  | @raw name hname hform =>
    obtain ⟨c, rest, hchars, hstart, hparts⟩ := exists_chars_of_isIdentifier hname
    have hsame : String.ofList (c :: rest) = name := by rw [← hchars, String.ofList_toList]
    have hword := word?_raw_eq_some hstart hparts (hsame ▸ hform) hend
    rw [hsame] at hword
    rw [String.toList_append, hchars]
    have hletter : isNameStart 'r' = true := isNameStart_of_stringLetters (by decide)
    exact .word_of hletter (Literal.after?_raw_eq_none hstart) hword h

/-- Two colons in front of a word make one operator. -/
theorem Lexes.colons (hpart : ∀ d ∈ cs.head?, isNamePart d = true) (h : Lexes cs ts) :
    Lexes (':' :: ':' :: cs) (Token.operator [':', ':'] ++ ts) := by
  have hmark : beginsMark cs = false := by
    cases cs with
    | nil => rfl
    | cons d rest => exact beginsMark_eq_false (hpart d rfl)
  have hone := Lexes.mark (c := ':') (by decide) h
  rw [hmark] at hone
  exact .mark (by decide) hone

/-! ### Whole texts -/

/-- A text without brackets has the tokens that it is cut into. -/
theorem tokens?_of_lexes {s : String} (h : Lexes s.toList ts)
    (hmark : s.toList.head? ≠ some '\ufeff') : tokens? s = some ts := by
  unfold tokens?
  dsimp only
  split
  · next heq => simp [heq] at hmark
  · rw [h _ (Nat.lt_succ_self _)]
    exact trees?_tokens [] ts

/-- **An identifier is one word.** -/
theorem tokens?_of_isIdentifier {s : String} (h : isIdentifier s = true) :
    tokens? s = some [.word s] := by
  have hlexes := Lexes.word (.plain h) endsWord_nil lexes_nil
  rw [List.append_nil] at hlexes
  refine tokens?_of_lexes hlexes fun hhead => ?_
  have hpart := List.all_eq_true.mp (isIdentifierSuffix_of_isIdentifier h) _
    (List.mem_of_mem_head? hhead)
  exact ne_of_foreign hpart (d := '\ufeff') (by decide) rfl

end Code

end TypedPrefs
