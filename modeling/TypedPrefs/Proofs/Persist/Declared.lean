import TypedPrefs.Proofs.Persist.FallBack
import TypedPrefs.Text.Pieces

/-!
# What a default declares

A value of a document declares a value of a kind if the kind can represent it: a Boolean, an integer
within the bounds of the kind, as such or as text, a string, or an array of strings. All kinds but
those of floating-point numbers are meant here.

A default is found exactly for what declares a value.
-/

namespace TypedPrefs

open Document Number

/-! ## Blanks -/

namespace Text

variable {before body after : List Char}

theorem dropWhile_isBlank (hbefore : ∀ c ∈ before, isBlank c = true)
    (hbody : ∀ c ∈ body, isBlank c = false) (hne : body ≠ []) :
    (before ++ (body ++ after)).dropWhile isBlank = body ++ after := by
  rw [List.dropWhile_append_of_pos hbefore]
  cases body with
  | nil => exact absurd rfl hne
  | cons c rest => exact List.dropWhile_cons_of_neg (by simp [hbody c])

/-- Blanks around a text without blanks are taken away. -/
theorem trim_of_padded (hbefore : ∀ c ∈ before, isBlank c = true)
    (hbody : ∀ c ∈ body, isBlank c = false) (hne : body ≠ [])
    (hafter : ∀ c ∈ after, isBlank c = true) : trim (before ++ body ++ after) = body := by
  have hback : (after.reverse ++ (body.reverse ++ [])).dropWhile isBlank = body.reverse ++ [] :=
    dropWhile_isBlank (by simpa using hafter) (by simpa using hbody) (by simpa using hne)
  rw [trim, trimEnd, List.append_assoc, dropWhile_isBlank hbefore hbody hne, List.reverse_append]
  rw [List.append_nil] at hback
  rw [hback, List.reverse_reverse]

/-- What is taken away from the ends of a text are blanks. -/
theorem exists_padding (s : List Char) :
    ∃ before after, s = before ++ trim s ++ after ∧ (∀ c ∈ before, isBlank c = true) ∧
      ∀ c ∈ after, isBlank c = true := by
  refine ⟨s.takeWhile isBlank, ((s.dropWhile isBlank).reverse.takeWhile isBlank).reverse, ?_,
    fun c hc => List.mem_takeWhile_imp hc,
    fun c hc => List.mem_takeWhile_imp (List.mem_reverse.mp hc)⟩
  rw [trim, trimEnd, List.append_assoc, ← List.reverse_append, List.takeWhile_append_dropWhile,
    List.reverse_reverse, List.takeWhile_append_dropWhile]

end Text

/-- A text that spells an integer, perhaps with blanks around it. -/
def IsIntegerText (s : String) (i : ℤ) : Prop :=
  ∃ before body after, s.toList = before ++ body ++ after ∧
    (∀ c ∈ before, Text.isBlank c = true) ∧ (∀ c ∈ after, Text.isBlank c = true) ∧
    IsSignedDecimal body i

theorem Number.IsSignedDecimal.not_isBlank {body : List Char} {i : ℤ} (h : IsSignedDecimal body i) :
    body ≠ [] ∧ ∀ c ∈ body, Text.isBlank c = false := by
  have hdigit : ∀ c : Char, c.isDigit = true → Text.isBlank c = false := by
    intro c hc
    have hbounds : 48 ≤ c.toNat ∧ c.toNat ≤ 57 := by
      simpa [Char.isDigit, UInt32.le_iff_toNat_le] using hc
    simp [Text.isBlank]
    omega
  cases h with
  | plain hdigits => exact ⟨hdigits.1, fun c hc => hdigit c (hdigits.2 c hc)⟩
  | plus hdigits | minus hdigits =>
    refine ⟨List.cons_ne_nil _ _, fun c hc => ?_⟩
    rcases List.mem_cons.mp hc with rfl | hc
    · decide
    · exact hdigit c (hdigits.2 c hc)

theorem isIntegerText_iff {s : String} {i : ℤ} :
    IsIntegerText s i ↔ parseInteger? (Text.trim s.toList) = some i := by
  rw [parseInteger?_eq_some_iff]
  constructor
  · rintro ⟨before, body, after, htext, hbefore, hafter, hbody⟩
    obtain ⟨hne, hblank⟩ := hbody.not_isBlank
    rw [htext, Text.trim_of_padded hbefore hblank hne hafter]
    exact hbody
  · intro h
    obtain ⟨before, after, htext, hbefore, hafter⟩ := Text.exists_padding s.toList
    exact ⟨before, _, after, htext, hbefore, hafter, h⟩

/-! ## Declared values -/

/-- What a value of a document declares as a value of a kind, if the kind can represent it. Of an
array the order and the repetitions of the strings do not count, and whatever is given for the kind
`void` stands for its only value. -/
inductive Declares : (k : StoredKind) → Document.Value → k.Value → Prop
  | boolean (b : Bool) : Declares .boolean (.boolean b) b
  | integer {k : StoredKind} {i : ℤ} {v : k.Value} :
      k.integer? v = some i → Declares k (.integer i) v
  | integerText {k : StoredKind} {s : String} {i : ℤ} {v : k.Value} :
      IsIntegerText s i → k.integer? v = some i → Declares k (.string s) v
  | string (s : String) : Declares .string (.string s) (some s)
  | strings {items : List String} {s : StringSet} :
      (∀ x, x ∈ s.toStrings ↔ x ∈ items) →
      Declares .stringSet (.array (items.map .string)) (some s)
  | void (given : Document.Value) : Declares .void given ()

/-- What is declared is one value. -/
theorem Declares.unique {k : StoredKind} {given : Document.Value} {v w : k.Value}
    (hv : Declares k given v) (hw : Declares k given w) : v = w := by
  generalize hgiven : given = given' at hw
  cases hv with
  | boolean b =>
    cases hw with
    | boolean =>
      cases hgiven
      rfl
    | _ => cases hgiven
  | integer hi =>
    cases hw with
    | integer hi' =>
      cases hgiven
      exact StoredKind.integer?_injective hi hi'
    | void => cases hi
    | _ => cases hgiven
  | integerText htext hi =>
    cases hw with
    | integerText htext' hi' =>
      cases hgiven
      rw [isIntegerText_iff] at htext htext'
      cases htext.symm.trans htext'
      exact StoredKind.integer?_injective hi hi'
    | string | void => cases hi
    | _ => cases hgiven
  | string s =>
    cases hw with
    | string =>
      cases hgiven
      rfl
    | integerText _ hi => cases hi
    | integer => cases hgiven
  | strings hmem =>
    cases hw with
    | strings hmem' =>
      have hitems := Document.Value.array.inj hgiven
      rw [List.map_inj_right fun _ _ => Document.Value.string.inj] at hitems
      subst hitems
      rw [StringSet.ext_toStrings fun x => (hmem x).trans (hmem' x).symm]
    | _ => cases hgiven
  | void => rfl

namespace StoredKind

/-- An integer is one of a kind if it is within the bounds of the kind. -/
theorem exists_integer?_iff {k : StoredKind} {low high i : ℤ} (h : k.range? = some (low, high)) :
    (∃ v : k.Value, k.integer? v = some i) ↔ ¬ (i < low || high < i) = true := by
  simp only [← ofInt?_eq_some_iff, ofInt?, h]
  cases k with
  | byte | char | short | int | long => split <;> simp_all
  | _ => cases h

theorem isIntegral_of_integer? {k : StoredKind} {i : ℤ} {v : k.Value} (h : k.integer? v = some i) :
    k.isIntegral = true := by
  cases k with
  | byte | char | short | int | long => rfl
  | _ => cases h

theorem isInt64_of_integer? {k : StoredKind} {i : ℤ} {v : k.Value} (h : k.integer? v = some i) :
    isInt64 i = true := by
  have hlow : (signedRange 64).1 = -2 ^ 63 := rfl
  have hhigh : (signedRange 64).2 = 2 ^ 63 - 1 := rfl
  rw [isInt64, hlow, hhigh]
  cases k with
  | byte | char | short | int | long =>
    have hbounds := (exists_integer?_iff rfl).mp ⟨v, h⟩
    simp at hbounds ⊢
    omega
  | _ => cases h

end StoredKind

namespace DefaultValue

theorem ofInteger_eq_ok_iff {k : StoredKind} (hk : k.isIntegral = true) {i : ℤ}
    {d : DefaultValue} :
    ofInteger k i = .ok d ↔ d = .integer i ∧ ∃ v : k.Value, k.integer? v = some i := by
  obtain ⟨low, high, hrange⟩ : ∃ low high, k.range? = some (low, high) := by
    cases k <;> first | exact ⟨_, _, rfl⟩ | cases hk
  rw [StoredKind.exists_integer?_iff hrange, ofInteger, hrange]
  dsimp only
  split
  · next hout => simp [hout]
  · next hin =>
    simp only [Except.ok.injEq, hin, Bool.false_eq_true, not_false_eq_true, and_true]
    exact eq_comm

theorem ofIntegerText_eq_ok_iff {k : StoredKind} (hk : k.isIntegral = true) {s : String}
    {d : DefaultValue} :
    ofIntegerText k s = .ok d ↔
      ∃ i, IsIntegerText s i ∧ d = .integer i ∧ ∃ v : k.Value, k.integer? v = some i := by
  simp only [isIntegerText_iff, ofIntegerText, parseWithin?]
  cases hread : parseInteger? (Text.trim s.toList) with
  | none => simp
  | some j =>
    rw [Option.filter_some]
    cases hin : decide ((signedRange 64).1 ≤ j) && decide (j ≤ (signedRange 64).2) with
    | true => simp [ofInteger_eq_ok_iff hk]
    | false =>
      -- whatever is beyond 64 bits is no integer of the kind either
      simp only [Bool.false_eq_true, if_false, reduceCtorEq, false_iff, Option.some.injEq]
      rintro ⟨i, rfl, -, v, hv⟩
      rw [← isInt64, StoredKind.isInt64_of_integer? hv] at hin
      cases hin

theorem ofStrings_eq_ok_iff {values : List Document.Value} {items : List String} :
    ofStrings values = .ok items ↔ values = items.map .string := by
  induction values generalizing items with
  | nil => cases items <;> simp [ofStrings]
  | cons value rest ih =>
    cases value with
    | string s =>
      rw [ofStrings, map_eq_ok_iff]
      cases items with
      | nil => simp
      | cons item items =>
        simp only [List.map_cons, List.cons.injEq, Document.Value.string.injEq, ih]
        constructor
        · rintro ⟨_, hrest, rfl, rfl⟩
          exact ⟨rfl, hrest⟩
        · rintro ⟨rfl, hrest⟩
          exact ⟨items, hrest, rfl, rfl⟩
    | _ => cases items <;> simp [ofStrings]

/-- **A default is what was declared.** -/
theorem declares_of_resolve {k : StoredKind} (hk : k.isFloating = false) {given : Document.Value}
    {d : DefaultValue} (h : resolve k (some given) = .ok d) :
    d.Fits k ∧ Declares k given (d.valueAs k) := by
  rw [resolve, ofValue.eq_def] at h
  split at h
  · cases h
    exact ⟨.void, .void given⟩
  · cases h
    exact ⟨.boolean _, .boolean _⟩
  · cases h
    exact ⟨.string _, .string _⟩
  · obtain ⟨items, hitems, rfl⟩ := map_eq_ok_iff.mp h
    rw [ofStrings_eq_ok_iff.mp hitems]
    exact ⟨.strings items, .strings fun x => StringSet.mem_toStrings_ofStrings⟩
  · split at h
    · next hintegral =>
      obtain ⟨rfl, v, hv⟩ := (ofInteger_eq_ok_iff hintegral).mp h
      rw [valueAs_integer hv]
      exact ⟨.integer hv, .integer hv⟩
    · rw [hk] at h
      cases h
  · split at h
    · next hintegral =>
      obtain ⟨i, htext, rfl, v, hv⟩ := (ofIntegerText_eq_ok_iff hintegral).mp h
      rw [valueAs_integer hv]
      exact ⟨.integer hv, .integerText htext hv⟩
    · cases h
  · rw [hk] at h
    cases h
  · cases h

theorem ofValue_integer {k : StoredKind} (hk : k.isIntegral = true) (i : ℤ) :
    ofValue k (.integer i) = ofInteger k i := by
  cases k <;> first | rfl | cases hk

theorem ofValue_string {k : StoredKind} (hk : k.isIntegral = true) (s : String) :
    ofValue k (.string s) = ofIntegerText k s := by
  cases k <;> first | rfl | cases hk

/-- **Whatever declares a value is taken.** -/
theorem exists_resolve {k : StoredKind} {given : Document.Value} {v : k.Value}
    (h : Declares k given v) : ∃ d, resolve k (some given) = .ok d := by
  cases h with
  | boolean b => exact ⟨_, rfl⟩
  | integer hi =>
    have hintegral := StoredKind.isIntegral_of_integer? hi
    rw [resolve, ofValue_integer hintegral]
    exact ⟨_, (ofInteger_eq_ok_iff hintegral).mpr ⟨rfl, v, hi⟩⟩
  | integerText htext hi =>
    have hintegral := StoredKind.isIntegral_of_integer? hi
    rw [resolve, ofValue_string hintegral]
    exact ⟨_, (ofIntegerText_eq_ok_iff hintegral).mpr ⟨_, htext, rfl, v, hi⟩⟩
  | string s => exact ⟨_, rfl⟩
  | strings => exact ⟨_, map_eq_ok_iff.mpr ⟨_, ofStrings_eq_ok_iff.mpr rfl, rfl⟩⟩
  | void => exact ⟨_, rfl⟩

end DefaultValue

end TypedPrefs
