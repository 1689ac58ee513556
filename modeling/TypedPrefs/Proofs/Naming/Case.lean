import TypedPrefs.Naming.Case

/-!
# The first letter in Pascal case

The upper case of a character is never empty and never begins with a small letter of ASCII. So no
name in Pascal case does, whatever the declared name begins with.
-/

namespace TypedPrefs.Text

/-! ## Upper case -/

/-- Whether a character is a small letter of ASCII. -/
def isSmall (c : Char) : Bool := 0x61 ≤ c.toNat && c.toNat ≤ 0x7A

theorem isSmall_eq_false_iff {c : Char} : isSmall c = false ↔ c.toNat < 0x61 ∨ 0x7A < c.toNat := by
  rw [isSmall, Bool.and_eq_false_iff, decide_eq_false_iff_not, decide_eq_false_iff_not, Nat.not_le,
    Nat.not_le]

/-- A code point that is none stands for the first character. -/
theorem toNat_ofNat (n : Nat) : (Char.ofNat n).toNat = n ∨ (Char.ofNat n).toNat = 0 := by
  by_cases hvalid : n.isValidChar
  · left
    rw [Char.ofNat, dif_pos hvalid]
    rfl
  · right
    rw [Char.ofNat, dif_neg hvalid]
    rfl

/-- An image belongs to a run that has the original. -/
theorem exists_of_imageIn {runs : List CaseRun} {c image : Nat} (h : imageIn runs c = some image) :
    ∃ r ∈ runs, (r.span.first ≤ c ∧ c ≤ r.span.last ∧ (c - r.span.first) % r.span.step = 0) ∧
      image = r.image + (c - r.span.first) := by
  induction runs with
  | nil => cases h
  | cons r rest ih =>
    rw [imageIn] at h
    split at h
    · next hlast =>
      split at h
      · next hin =>
        simp only [Bool.and_eq_true, decide_eq_true_eq, beq_iff_eq] at hin
        exact ⟨r, List.mem_cons_self, ⟨hin.1, hlast, hin.2⟩, (Option.some.inj h).symm⟩
      · cases h
    · obtain ⟨r', hr', hfound⟩ := ih h
      exact ⟨r', List.mem_cons_of_mem _ hr', hfound⟩

/-- Upper case begins with a character that is no small letter of ASCII. -/
theorem head_upper (c : Char) : ∃ first rest, upper c = first :: rest ∧ isSmall first = false := by
  have hexpansions : ∀ e ∈ upperExpansions,
      (e.2.map Char.ofNat).head?.any (!isSmall ·) = true := by decide +kernel
  have hruns : ∀ r ∈ upperRuns,
      0x7A < r.image ∨ r.image + (r.span.last - r.span.first) < 0x61 := by decide +kernel
  have hsmall : ∀ n < 26, (imageIn upperRuns (0x61 + n)).isSome = true := by decide +kernel
  rw [upper, mapCase]
  split
  · next image himage =>
    obtain ⟨before, after, heq, -⟩ := List.lookup_eq_some_iff.mp himage
    have hhead := hexpansions (c.toNat, image) (by simp [heq])
    cases hchars : image.map Char.ofNat with
    | nil => simp [hchars] at hhead
    | cons first rest => exact ⟨first, rest, rfl, by simpa [hchars] using hhead⟩
  · split
    · next image himage =>
      obtain ⟨r, hr, ⟨-, hlast, -⟩, rfl⟩ := exists_of_imageIn himage
      have hrun := hruns r hr
      refine ⟨_, [], rfl, isSmall_eq_false_iff.mpr ?_⟩
      rcases toNat_ofNat (r.image + (c.toNat - r.span.first)) with heq | heq
      · omega
      · omega
    · next hnone =>
      refine ⟨c, [], rfl, isSmall_eq_false_iff.mpr (Decidable.byContradiction fun hbetween => ?_)⟩
      have hsome := hsmall (c.toNat - 0x61) (by omega)
      rw [Nat.add_sub_cancel' (by omega), hnone] at hsome
      cases hsome

end TypedPrefs.Text

namespace TypedPrefs.Naming

open Text

/-! ## Pascal case -/

/-- Whether a name begins with a small letter of ASCII. -/
def beginsSmall (s : String) : Bool := s.toList.head?.any isSmall

theorem beginsSmall_append {s t : String} (hs : beginsSmall s = false)
    (ht : beginsSmall t = false) : beginsSmall (s ++ t) = false := by
  rw [beginsSmall] at hs ht ⊢
  rw [String.toList_append, List.head?_append]
  cases hhead : s.toList.head? with
  | none => simpa using ht
  | some c => simpa [hhead] using hs

theorem beginsSmall_pascalCase (s : String) : beginsSmall (pascalCase s) = false := by
  rw [beginsSmall, pascalCase, String.toList_ofList]
  induction pieces (fun c => c == '-' || c == '_') s.toList with
  | nil => rfl
  | cons piece rest ih =>
    cases piece with
    | nil => simpa [capitalizeChars] using ih
    | cons c more =>
      obtain ⟨first, others, hupper, hfirst⟩ := head_upper c
      simp [capitalizeChars, hupper, hfirst]

end TypedPrefs.Naming
