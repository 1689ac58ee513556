import TypedPrefs.Naming.Case
import TypedPrefs.Naming.Identifier

/-!
# Names made from identifiers

A character that may begin a name may also continue one. So a text that goes on with an identifier
is an identifier if its beginning is, which is how generated names are formed.
-/

namespace TypedPrefs.Text

/-! ## Characters -/

/-- Whether all code points of the first span belong to the second. -/
def Span.isWithin (t s : Span) : Bool :=
  s.first ≤ t.first && t.last ≤ s.last && (t.first - s.first) % s.step == 0 && t.step % s.step == 0

theorem Span.mem_of_isWithin {t s : Span} (h : t.isWithin s = true) {c : Nat}
    (hfirst : t.first ≤ c) (hlast : c ≤ t.last) (hstep : (c - t.first) % t.step = 0) :
    s.first ≤ c ∧ c ≤ s.last ∧ (c - s.first) % s.step = 0 := by
  simp only [isWithin, Bool.and_eq_true, decide_eq_true_eq, beq_iff_eq] at h
  obtain ⟨⟨⟨hleft, hright⟩, hoffset⟩, hsteps⟩ := h
  have hdvd : s.step ∣ (c - t.first) + (t.first - s.first) :=
    Nat.dvd_add (Nat.dvd_trans (Nat.dvd_of_mod_eq_zero hsteps) (Nat.dvd_of_mod_eq_zero hstep))
      (Nat.dvd_of_mod_eq_zero hoffset)
  rw [Nat.sub_add_sub_cancel hfirst hleft] at hdvd
  exact ⟨by omega, by omega, Nat.mod_eq_zero_of_dvd hdvd⟩

/-- Whether the second list of spans can be shared out, in order, among the spans of the first. -/
def covers : List Span → List Span → Bool
  | [], inner => inner.isEmpty
  | s :: rest, inner =>
    let later := inner.dropWhile (·.isWithin s)
    later.head?.all (fun t => s.last < t.first && s.last < t.last) && covers rest later

/-- A code point of the second list is in the span that takes part of it, or comes later. -/
theorem inSpans_dropWhile {s : Span} {inner : List Span} {c : Nat} (h : inSpans inner c = true) :
    (s.first ≤ c ∧ c ≤ s.last ∧ (c - s.first) % s.step = 0) ∨
      inSpans (inner.dropWhile (·.isWithin s)) c = true := by
  induction inner with
  | nil => simp [inSpans] at h
  | cons t rest ih =>
    by_cases hwithin : t.isWithin s = true
    · rw [List.dropWhile_cons, if_pos hwithin]
      rw [inSpans] at h
      split at h
      · next hlast =>
        simp only [Bool.and_eq_true, decide_eq_true_eq, beq_iff_eq] at h
        exact .inl (Span.mem_of_isWithin hwithin h.1 hlast h.2)
      · exact ih h
    · rw [List.dropWhile_cons, if_neg hwithin]
      exact .inr h

theorem inSpans_of_covers {outer inner : List Span} (hcovers : covers outer inner = true) {c : Nat}
    (h : inSpans inner c = true) : inSpans outer c = true := by
  induction outer generalizing inner with
  | nil =>
    rw [covers, List.isEmpty_iff] at hcovers
    simp [hcovers, inSpans] at h
  | cons s rest ih =>
    simp only [covers, Bool.and_eq_true] at hcovers
    rw [inSpans]
    rcases inSpans_dropWhile (s := s) h with ⟨hfirst, hlast, hstep⟩ | hlater
    · simp [hfirst, hlast, hstep]
    · -- what comes later lies behind the whole span
      have hbehind : s.last < c := by
        cases hhead : inner.dropWhile (·.isWithin s) with
        | nil => simp [hhead, inSpans] at hlater
        | cons t more =>
          simp only [hhead, List.head?_cons, Option.all_some, Bool.and_eq_true,
            decide_eq_true_eq] at hcovers
          rw [hhead, inSpans] at hlater
          split at hlater
          · simp only [Bool.and_eq_true, decide_eq_true_eq] at hlater
            omega
          · omega
      rw [if_neg (by omega)]
      exact ih hcovers.2 hlater

/-- A character that may begin a name may continue one. -/
theorem isNamePart_of_isNameStart {c : Char} (h : isNameStart c = true) : isNamePart c = true := by
  rw [isNameStart, Bool.or_eq_true, beq_iff_eq] at h
  rcases h with rfl | h
  · decide +kernel
  · exact inSpans_of_covers (by decide +kernel) h

theorem not_isNamePart_colon : isNamePart ':' = false := by decide

theorem not_isNamePart_numberSign : isNamePart '#' = false := by decide

end TypedPrefs.Text

namespace TypedPrefs.Naming

open Text

/-! ## Identifiers -/

theorem isIdentifierSuffix_of_isIdentifier {s : String} (h : isIdentifier s = true) :
    isIdentifierSuffix s = true := by
  rw [isIdentifier] at h
  rw [isIdentifierSuffix]
  cases hs : s.toList with
  | nil => rfl
  | cons c rest =>
    rw [hs, isIdentifierChars, Bool.and_eq_true] at h
    rw [List.all_cons, isNamePart_of_isNameStart h.1, h.2]
    rfl

/-- A character that no name has does not occur in identifiers. -/
theorem not_mem_of_isIdentifier {s : String} (h : isIdentifier s = true) {c : Char}
    (hc : isNamePart c = false) : c ∉ s.toList := fun hmem => by
  have hpart := List.all_eq_true.mp (isIdentifierSuffix_of_isIdentifier h) c hmem
  rw [hc] at hpart
  cases hpart

theorem isIdentifier_append {s t : String} (hs : isIdentifier s = true)
    (ht : isIdentifierSuffix t = true) : isIdentifier (s ++ t) = true := by
  rw [isIdentifierSuffix] at ht
  rw [isIdentifier] at hs ⊢
  cases hchars : s.toList with
  | nil => simp [hchars, isIdentifierChars] at hs
  | cons c rest =>
    rw [hchars, isIdentifierChars, Bool.and_eq_true] at hs
    rw [String.toList_append, hchars, List.cons_append, isIdentifierChars, List.all_append, hs.1,
      hs.2, ht]
    rfl

/-- A text in front of an identifier makes another one if it is one itself. -/
theorem isIdentifier_append_of_isIdentifier {s t : String} (hs : isIdentifier s = true)
    (ht : isIdentifier t = true) : isIdentifier (s ++ t) = true :=
  isIdentifier_append hs (isIdentifierSuffix_of_isIdentifier ht)

theorem ne_empty_of_isIdentifier {s : String} (h : isIdentifier s = true) : s.toList ≠ [] :=
  fun hempty => by simp [isIdentifier, hempty, isIdentifierChars] at h

theorem isIdentifier_of_isUsable {s : String} (h : isUsable s = true) : isIdentifier s = true := by
  rw [isUsable, Bool.and_eq_true] at h
  exact h.1

/-! ## Reserved words -/

/-- Two identifiers with an underscore in one of them make a name that can be used: the only
reserved word with an underscore is the underscore itself. -/
theorem isUsable_append {s t : String} (hs : isIdentifier s = true) (ht : isIdentifier t = true)
    (hmem : '_' ∈ (s ++ t).toList) : isUsable (s ++ t) = true := by
  have hwords : ∀ w ∈ reservedWords, '_' ∈ w.toList → w.toList.length = 1 := by decide
  have hlength : 1 < (s ++ t).toList.length := by
    have hs' := List.length_pos_iff.mpr (ne_empty_of_isIdentifier hs)
    have ht' := List.length_pos_iff.mpr (ne_empty_of_isIdentifier ht)
    rw [String.toList_append, List.length_append]
    omega
  have hfree : s ++ t ∉ reservedWords := by
    intro hreserved
    have hone := hwords _ hreserved hmem
    omega
  rw [isUsable, isIdentifier_append_of_isIdentifier hs ht, isReservedWord]
  simpa using hfree

/-- What generated names have in front of declared ones or behind them. -/
theorem isIdentifier_affix :
    ∀ s ∈ ["is_", "get_", "set_", "_serializer", "_group"], isIdentifier s = true := by
  decide

/-- The getter and the setters of a method can be used if the method can. -/
theorem isUsable_getterName {method : String} (h : isUsable method = true)
    (isBoolean fluent : Bool) : isUsable (getterName method isBoolean fluent) = true := by
  have hmethod := isIdentifier_of_isUsable h
  rw [getterName]
  split
  · exact h
  · split
    · exact isUsable_append (isIdentifier_affix _ (by simp)) hmethod (by simp)
    · exact isUsable_append (isIdentifier_affix _ (by simp)) hmethod (by simp)

theorem isUsable_setterName {method : String} (h : isUsable method = true) :
    isUsable (setterName method) = true :=
  isUsable_append (isIdentifier_affix _ (by simp)) (isIdentifier_of_isUsable h) (by simp)

theorem isUsable_editorSetterName {method : String} (h : isUsable method = true)
    (fluent : Bool) : isUsable (editorSetterName method fluent) = true := by
  rw [editorSetterName]
  split
  · exact h
  · exact isUsable_setterName h

end TypedPrefs.Naming
