import TypedPrefs.Text.Pieces

/-!
# Texts on one line

A text is on one line if no line feed occurs in it. Lines that are put one under the other are found
again by splitting at line feeds exactly if each of them is on one line.
-/

namespace TypedPrefs.Text

/-- No line feed occurs in the text. -/
def IsOneLine (s : String) : Prop := '\n' ∉ s.toList

instance (s : String) : Decidable (IsOneLine s) := inferInstanceAs (Decidable (_ ∉ _))

@[simp] theorem isOneLine_append {s t : String} :
    IsOneLine (s ++ t) ↔ IsOneLine s ∧ IsOneLine t := by
  simp [IsOneLine]

@[simp] theorem isOneLine_ofList {chars : List Char} :
    IsOneLine (String.ofList chars) ↔ '\n' ∉ chars := by
  simp [IsOneLine]

/-! ## Digits -/

/-- The characters of a number are those of digits. -/
theorem exists_of_mem_toDigits {base n : Nat} (hbase : 1 < base) {c : Char}
    (h : c ∈ Nat.toDigits base n) : ∃ d < base, c = d.digitChar := by
  induction n using Nat.strongRecOn with
  | ind n ih =>
    by_cases hn : n < base
    · rw [Nat.toDigits_of_lt_base hn, List.mem_singleton] at h
      exact ⟨n, hn, h⟩
    · rw [Nat.toDigits_of_base_le hbase (by omega), List.mem_append, List.mem_singleton] at h
      rcases h with h | h
      · exact ih (n / base) (Nat.div_lt_self (by omega) hbase) h
      · exact ⟨n % base, Nat.mod_lt n (by omega), h⟩

theorem lineFeed_not_mem_toDigits {base : Nat} (hbase : 1 < base) (n : Nat) :
    '\n' ∉ Nat.toDigits base n := by
  intro h
  obtain ⟨d, -, heq⟩ := exists_of_mem_toDigits hbase h
  exact Nat.digitChar_ne '\n' (by decide) heq.symm

@[simp] theorem isOneLine_repr_nat (n : Nat) : IsOneLine n.repr := by
  simp [Nat.repr, lineFeed_not_mem_toDigits]

@[simp] theorem isOneLine_repr_int (i : Int) : IsOneLine i.repr := by
  cases i with
  | ofNat n => simp [Int.repr]
  | negSucc n => simp +decide [Int.repr]

/-! ## Splitting -/

theorem pieces_ne_nil (sep : Char → Bool) (chars : List Char) : pieces sep chars ≠ [] := by
  induction chars with
  | nil => simp [pieces]
  | cons c rest ih =>
    rw [pieces]
    split
    · simp
    · split
      · simp
      · simp

theorem pieces_cons_of_not {sep : Char → Bool} {c : Char} (h : sep c = false) (rest : List Char) :
    ∃ piece more, pieces sep rest = piece :: more ∧
      pieces sep (c :: rest) = (c :: piece) :: more := by
  obtain ⟨piece, more, hpieces⟩ := List.exists_cons_of_ne_nil (pieces_ne_nil sep rest)
  exact ⟨piece, more, hpieces, by simp [pieces, h, hpieces]⟩

/-- No piece has a separator. -/
theorem not_mem_of_mem_pieces {sep : Char → Bool} {chars piece : List Char}
    (h : piece ∈ pieces sep chars) : ∀ c ∈ piece, sep c = false := by
  induction chars generalizing piece with
  | nil =>
    rw [pieces, List.mem_singleton] at h
    simp [h]
  | cons c rest ih =>
    by_cases hc : sep c = true
    · rw [pieces, if_pos hc] at h
      rcases List.mem_cons.mp h with heq | h
      · simp [heq]
      · exact ih h
    · rw [Bool.not_eq_true] at hc
      obtain ⟨first, more, hpieces, heq⟩ := pieces_cons_of_not hc rest
      rw [heq] at h
      rw [hpieces] at ih
      rcases List.mem_cons.mp h with rfl | h
      · exact List.forall_mem_cons.mpr ⟨hc, ih List.mem_cons_self⟩
      · exact ih (List.mem_cons_of_mem _ h)

/-- A separator ends the piece before it. -/
theorem pieces_append_cons {sep : Char → Bool} {piece : List Char} {c : Char}
    (hpiece : ∀ d ∈ piece, sep d = false) (hc : sep c = true) (rest : List Char) :
    pieces sep (piece ++ c :: rest) = piece :: pieces sep rest := by
  induction piece with
  | nil => simp [pieces, hc]
  | cons d piece ih =>
    simp only [List.mem_cons, forall_eq_or_imp] at hpiece
    simp [pieces, hpiece.1, ih hpiece.2]

/-- Lines under one another are found again exactly if each of them is on one line. Behind the last
line feed there is an empty piece. -/
theorem splitAtChar_lines_iff (lines : List String) :
    splitAtChar '\n' (String.join (lines.map fun line => line ++ "\n")) = lines ++ [""] ↔
      ∀ line ∈ lines, IsOneLine line := by
  have htext : (String.join (lines.map fun line => line ++ "\n")).toList =
      lines.flatMap fun line => line.toList ++ ['\n'] := by
    simp [String.toList_join, List.flatMap_map]
  rw [splitAtChar, htext]
  constructor
  · intro h line hline hmem
    have hpiece : line ∈ (pieces (· == '\n') (lines.flatMap fun line => line.toList ++ ['\n'])).map
        String.ofList := by
      rw [h]
      exact List.mem_append_left _ hline
    obtain ⟨piece, hpiece', rfl⟩ := List.mem_map.mp hpiece
    have hsep := not_mem_of_mem_pieces hpiece' '\n' (by simpa using hmem)
    simp at hsep
  · intro h
    clear htext
    induction lines with
    | nil => simp [pieces]
    | cons line lines ih =>
      obtain ⟨hline, hlines⟩ := List.forall_mem_cons.mp h
      have hplain : ∀ d ∈ line.toList, (d == '\n') = false := by
        intro d hd
        rw [beq_eq_false_iff_ne]
        intro heq
        exact hline (heq ▸ hd)
      rw [List.flatMap_cons, List.append_assoc, List.singleton_append,
        pieces_append_cons hplain (by simp), List.map_cons, ih hlines]
      simp

end TypedPrefs.Text
