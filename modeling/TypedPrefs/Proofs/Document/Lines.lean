import TypedPrefs.Document.Printer
import TypedPrefs.Proofs.Text.Lines

/-!
# Values on one line

A value is shown on one line if the strings in it are on one line; those with line feeds are shown
as they are. Keys of tables, numbers and times never bring in a line feed.
-/

namespace TypedPrefs

open Text

/-! ## Numbers -/

namespace Number

theorem lineFeed_not_mem_positionalChars (d : Decimal) : '\n' ∉ d.positionalChars := by
  have hdigits : '\n' ∉ digitChars d.digits := lineFeed_not_mem_toDigits (by omega) _
  have htake : ∀ n, '\n' ∉ (digitChars d.digits).take n := by
    intro n hmem
    exact hdigits (List.mem_of_mem_take hmem)
  have hdrop : ∀ n, '\n' ∉ (digitChars d.digits).drop n := by
    intro n hmem
    exact hdigits (List.mem_of_mem_drop hmem)
  rw [Decimal.positionalChars]
  split
  · simp [hdigits]
  · dsimp only
    split
    · simp [htake, hdrop]
    · simp [hdigits]

theorem isOneLine_positional (x : Double) : IsOneLine x.positional := by
  have hfinite : ∀ n, IsOneLine (binary64.positional n) := by
    intro n
    simp [Format.positional, lineFeed_not_mem_positionalChars]
  rw [Double.positional, Double.textWith]
  repeat' split
  all_goals simp +decide [hfinite]

theorem isOneLine_asValue (x : Double) : IsOneLine x.asValue := by
  have htext := isOneLine_positional x
  unfold Double.asValue
  dsimp only
  repeat' split
  all_goals simp +decide [htext]

end Number

namespace Document

/-! ## Dates and times -/

namespace Datetime

theorem lineFeed_not_mem_padded (width n : Nat) : '\n' ∉ padded width n := by
  have hdigits : '\n' ∉ Nat.toDigits 10 n := lineFeed_not_mem_toDigits (by omega) n
  simp [padded, hdigits]

theorem lineFeed_not_mem_fractionChars (nanosecond : Nat) : '\n' ∉ fractionChars nanosecond := by
  rw [fractionChars]
  split
  · simp
  · have hpadded := lineFeed_not_mem_padded 9 nanosecond
    have hdropped : '\n' ∉ (padded 9 nanosecond).reverse.dropWhile (· == '0') := by
      intro hmem
      exact hpadded (List.mem_reverse.mp ((List.dropWhile_suffix _).subset hmem))
    simpa using hdropped

theorem lineFeed_not_mem_offsetChars (offset : Offset) : '\n' ∉ offsetChars offset := by
  cases offset with
  | zulu => simp [offsetChars]
  | minutes n =>
    rw [offsetChars]
    split <;> simp [lineFeed_not_mem_padded]

theorem isOneLine_text (t : Datetime) : IsOneLine t.text := by
  have hdate : ∀ d, '\n' ∉ dateChars d := by
    intro d
    simp [dateChars, lineFeed_not_mem_padded]
  have htime : ∀ t, '\n' ∉ timeChars t := by
    intro t
    simp [timeChars, lineFeed_not_mem_padded, lineFeed_not_mem_fractionChars]
  cases t with
  | date d => simp [text, hdate]
  | time t => simp [text, htime]
  | moment d t offset =>
    cases offset with
    | none => simp +decide [text, hdate, htime]
    | some offset => simp +decide [text, hdate, htime, lineFeed_not_mem_offsetChars]

end Datetime

/-! ## Strings and keys -/

namespace Printer

theorem lineFeed_not_mem_codeEscape (c : Char) : '\n' ∉ codeEscape c := by
  have hupper : ∀ d < 16, d.digitChar.toUpper ≠ '\n' := by decide
  have hdigits : '\n' ∉ (Nat.toDigits 16 c.toNat).map Char.toUpper := by
    intro hmem
    obtain ⟨digit, hdigit, heq⟩ := List.mem_map.mp hmem
    obtain ⟨d, hd, rfl⟩ := exists_of_mem_toDigits (by omega) hdigit
    exact hupper d hd heq
  simp [codeEscape, hdigits]

/-- Between double quotes on one line, a line feed is escaped. -/
theorem lineFeed_not_mem_encodeChar (c : Char) : '\n' ∉ encodeChar c := by
  by_cases hc : c = '\n'
  · simp [encodeChar, hc]
  · unfold encodeChar
    repeat' split
    all_goals simp [lineFeed_not_mem_codeEscape, Ne.symm hc]

theorem lineFeed_not_mem_encodeLines {s : List Char} (h : '\n' ∉ s) (row : Nat) :
    '\n' ∉ encodeLines row s := by
  induction s generalizing row with
  | nil => simp [encodeLines]
  | cons c rest ih =>
    simp only [List.mem_cons, not_or] at h
    rw [encodeLines]
    split
    · split
      · simp [ih h.2]
      · simp [ih h.2]
    · rw [if_neg (Ne.symm h.1)]
      simp [ih h.2, lineFeed_not_mem_encodeChar]

theorem lineFeed_not_mem_stringChars {s : List Char} (h : '\n' ∉ s) : '\n' ∉ stringChars s := by
  have hencoded : '\n' ∉ s.flatMap encodeChar := by
    simp [lineFeed_not_mem_encodeChar]
  have hlines := lineFeed_not_mem_encodeLines h 0
  have hcontains : s.contains '\n' = false := by simpa using h
  simp only [stringChars, hcontains, Bool.false_eq_true, if_false]
  repeat' split
  all_goals simp [hencoded, hlines, h]

/-- A key that holds a line feed is escaped. -/
theorem lineFeed_not_mem_keyChars (s : List Char) : '\n' ∉ keyChars s := by
  have hencoded : '\n' ∉ s.flatMap encodeChar := by
    simp [lineFeed_not_mem_encodeChar]
  have hbare : isBareKeyChar '\n' = false := by decide
  unfold keyChars
  dsimp only
  split
  · next hall =>
    -- a key without quotes has no line feed
    simp only [Bool.and_eq_true, List.all_eq_true] at hall
    intro hmem
    simp [hall.2 _ hmem] at hbare
  · split
    · simp [hencoded]
    · split
      · next hplain =>
        simp only [Bool.not_or, Bool.and_eq_true, Bool.not_eq_true', List.contains_eq_mem,
          decide_eq_false_iff_not] at hplain
        simp [hplain.1.2]
      · simp [hencoded]

end Printer

/-! ## Values -/

namespace Value

mutual

/-- The strings in a value, without the keys of tables. -/
def strings : Value → List String
  | .string s => [s]
  | .array items => stringsAmong items
  | .table entries => stringsOfEntries entries
  | .integer _ => []
  | .float _ => []
  | .hugeFloat => []
  | .boolean _ => []
  | .datetime _ => []

/-- The strings in some values. -/
def stringsAmong : List Value → List String
  | [] => []
  | v :: rest => strings v ++ stringsAmong rest

/-- The strings in the values of some entries. -/
def stringsOfEntries : List (String × Value) → List String
  | [] => []
  | (_, v) :: rest => strings v ++ stringsOfEntries rest

end

mutual

theorem lineFeed_not_mem_inlineChars :
    (v : Value) → (∀ s ∈ v.strings, IsOneLine s) → '\n' ∉ v.inlineChars
  | .string s, h => by
    simp only [strings, List.mem_singleton, forall_eq] at h
    simpa [inlineChars] using Printer.lineFeed_not_mem_stringChars h
  | .integer i, _ => isOneLine_repr_int i
  | .float x, _ => Number.isOneLine_asValue x
  | .hugeFloat, _ => by simp [inlineChars]
  | .boolean b, _ => by
    rw [inlineChars]
    cases b <;> decide
  | .datetime t, _ => Datetime.isOneLine_text t
  | .array items, h => by
    simpa [inlineChars] using lineFeed_not_mem_itemChars [] items (by simp) h
  | .table [], _ => by simp [inlineChars]
  | .table (e :: rest), h => by
    simpa [inlineChars] using lineFeed_not_mem_entryChars [] (e :: rest) (by simp) h

theorem lineFeed_not_mem_itemChars (separator : List Char) :
    (items : List Value) → '\n' ∉ separator → (∀ s ∈ stringsAmong items, IsOneLine s) →
      '\n' ∉ itemChars separator items
  | [], _, _ => by simp [itemChars]
  | v :: rest, hseparator, h => by
    simp only [stringsAmong, List.forall_mem_append] at h
    simp [itemChars, hseparator, lineFeed_not_mem_inlineChars v h.1,
      lineFeed_not_mem_itemChars [',', ' '] rest (by simp) h.2]

theorem lineFeed_not_mem_entryChars (separator : List Char) :
    (entries : List (String × Value)) → '\n' ∉ separator →
      (∀ s ∈ stringsOfEntries entries, IsOneLine s) → '\n' ∉ entryChars separator entries
  | [], _, _ => by simp [entryChars]
  | (key, v) :: rest, hseparator, h => by
    simp only [stringsOfEntries, List.forall_mem_append] at h
    simp [entryChars, hseparator, Printer.lineFeed_not_mem_keyChars,
      lineFeed_not_mem_inlineChars v h.1,
      lineFeed_not_mem_entryChars [',', ' '] rest (by simp) h.2]

end

theorem isOneLine_text {v : Value} (h : ∀ s ∈ v.strings, IsOneLine s) : IsOneLine v.text := by
  simpa [text] using lineFeed_not_mem_inlineChars v h

end Value

end Document

end TypedPrefs
