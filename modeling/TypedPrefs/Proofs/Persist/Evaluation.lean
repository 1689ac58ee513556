import TypedPrefs.Code.Literal
import TypedPrefs.Number.Numeral
import TypedPrefs.Proofs.Number.Decimals
import TypedPrefs.Proofs.SortedMap
import TypedPrefs.Store.Default

/-!
# What the code of a default evaluates to

The meaning of the expressions that getters fall back on, on their tokens: an expression has a value
of the type of a kind. Literals are read as the generated language reads them: a whole number or a
decimal with the name of its type as suffix, a text between quotation marks. A decimal stands for
the number of its type that is nearest to it.

An expression has at most one value of a kind (`Evaluates.unique`).
-/

namespace TypedPrefs

open Code Code.Token Number

/-! ## Integers of a kind -/

namespace StoredKind

/-- The integer that a value of a kind of integers is. -/
def integer? : (k : StoredKind) → k.Value → Option ℤ
  | .byte, i => some (Int8.toInt i)
  | .char, c => some (UInt16.toNat c)
  | .short, i => some (Int16.toInt i)
  | .int, i => some (Int32.toInt i)
  | .long, i => some (Int64.toInt i)
  | _, _ => none

/-- A conversion that is checked against the bounds of a type gives a value back only for the
integer that it is. -/
theorem checked_eq_some_iff {α : Type} (make : ℤ → α) (read : α → ℤ) {low high i : ℤ} {v : α}
    (hmake : ∀ v, make (read v) = v) (hlow : ∀ v, low ≤ read v) (hhigh : ∀ v, read v ≤ high)
    (hread : ∀ i, low ≤ i → i ≤ high → read (make i) = i) :
    (if i < low || high < i then none else some (make i)) = some v ↔ read v = i := by
  have hbounds : (i < low || high < i) = true ↔ ¬ (low ≤ i ∧ i ≤ high) := by
    rw [Bool.or_eq_true, decide_eq_true_eq, decide_eq_true_eq]
    omega
  rw [ite_eq_iff, hbounds]
  constructor
  · rintro (⟨-, hnone⟩ | ⟨hi, hsome⟩)
    · cases hnone
    · obtain ⟨hi, hi'⟩ := not_not.mp hi
      cases hsome
      exact hread i hi hi'
  · intro h
    subst h
    exact .inr ⟨not_not.mpr ⟨hlow v, hhigh v⟩, by rw [hmake]⟩

/-- A value of a kind is made from the integer that it is, and from no other one. -/
theorem ofInt?_eq_some_iff {k : StoredKind} {i : ℤ} {v : k.Value} :
    k.ofInt? i = some v ↔ k.integer? v = some i := by
  cases k with
  | byte =>
    exact (checked_eq_some_iff Int8.ofInt Int8.toInt Int8.ofInt_toInt Int8.le_toInt
      (fun v => Int.le_of_lt_add_one (Int8.toInt_lt v))
      fun j h h' => Int8.toInt_ofInt_of_le h (Int.lt_add_one_of_le h')).trans Option.some_inj.symm
  | char =>
    refine (checked_eq_some_iff (fun j => UInt16.ofNat j.toNat)
      (fun v => (UInt16.toNat v : ℤ)) (fun v => UInt16.ofNat_toNat)
      (fun v => Int.natCast_nonneg _) (fun v => ?_) fun j h h' => ?_).trans Option.some_inj.symm
    · have hlt := UInt16.toNat_lt v
      omega
    · rw [UInt16.toNat_ofNat', Nat.mod_eq_of_lt (by omega), Int.toNat_of_nonneg h]
  | short =>
    exact (checked_eq_some_iff Int16.ofInt Int16.toInt Int16.ofInt_toInt Int16.le_toInt
      (fun v => Int.le_of_lt_add_one (Int16.toInt_lt v))
      fun j h h' => Int16.toInt_ofInt_of_le h (Int.lt_add_one_of_le h')).trans Option.some_inj.symm
  | int =>
    exact (checked_eq_some_iff Int32.ofInt Int32.toInt Int32.ofInt_toInt Int32.le_toInt
      (fun v => Int.le_of_lt_add_one (Int32.toInt_lt v))
      fun j h h' => Int32.toInt_ofInt_of_le h (Int.lt_add_one_of_le h')).trans Option.some_inj.symm
  | long =>
    exact (checked_eq_some_iff Int64.ofInt Int64.toInt Int64.ofInt_toInt Int64.le_toInt
      (fun v => Int.le_of_lt_add_one (Int64.toInt_lt v))
      fun j h h' => Int64.toInt_ofInt_of_le h (Int.lt_add_one_of_le h')).trans Option.some_inj.symm
  | _ => simp [ofInt?, range?, integer?]

/-- A value is no other integer than its own, and no other value is. -/
theorem integer?_injective {k : StoredKind} {i : ℤ} {v w : k.Value} (hv : k.integer? v = some i)
    (hw : k.integer? w = some i) : v = w := by
  rw [← ofInt?_eq_some_iff] at hv hw
  exact Option.some_inj.mp (hv.symm.trans hw)

end StoredKind

/-! ## Sets of strings -/

namespace StringSet

theorem mem_toStrings_ofStrings {items : List String} {x : String} :
    x ∈ (ofStrings items).toStrings ↔ x ∈ items := by
  rw [toStrings, ofStrings, SortedMap.mem_keys_ofList]
  simp

/-- A set is determined by its strings. -/
theorem ext_toStrings {s t : StringSet} (h : ∀ x, x ∈ s.toStrings ↔ x ∈ t.toStrings) : s = t := by
  apply SortedMap.ext_get?
  intro x
  have hx := h x
  rw [toStrings, toStrings, SortedMap.mem_keys_iff, SortedMap.mem_keys_iff] at hx
  cases hs : s.get? x with
  | none => cases ht : t.get? x <;> simp_all
  | some u => cases ht : t.get? x <;> simp_all

end StringSet

/-! ## Literals -/

/-- A whole number with the name of its type as suffix. -/
def IsWholeLiteral (suffix text : String) (n : ℕ) : Prop :=
  ∃ digits, parseNatural? digits = some n ∧ text = String.ofList digits ++ suffix

/-- A decimal with the name of its type as suffix. It stands for the nearest magnitude, from two
equally near ones for the even one, and for infinity if that is nearer than any number. -/
def IsDecimalLiteral (f : Format) (suffix text : String) (n : ℕ) : Prop :=
  ∃ numeral d m, Decimal.ofChars? numeral.toList = some d ∧ f.IsNearest d.value m ∧
    n = min f.infinity m ∧ text = numeral ++ suffix

/-- A text between quotation marks without a suffix. -/
def IsTextLiteral (text value : String) : Prop :=
  Literal.string? text.toList = some (.text, value.toList, [])

/-- Texts with commas between them. -/
inductive AreTextLiterals : List Token → List String → Prop
  | nil : AreTextLiterals [] []
  | single {text value : String} :
      IsTextLiteral text value → AreTextLiterals [.literal text] [value]
  | cons {text value : String} {rest : List Token} {values : List String} :
      IsTextLiteral text value → AreTextLiterals rest values → rest ≠ [] →
      AreTextLiterals (.literal text :: (code "," ++ rest)) (value :: values)

variable {f : Format} {suffix text : String} {m n : ℕ}

theorem IsWholeLiteral.unique (hm : IsWholeLiteral suffix text m)
    (hn : IsWholeLiteral suffix text n) : m = n := by
  obtain ⟨digits, hdigits, htext⟩ := hm
  obtain ⟨digits', hdigits', htext'⟩ := hn
  have hsame := (String.append_left_inj suffix).mp (htext.symm.trans htext')
  rw [String.ofList_injective hsame] at hdigits
  exact Option.some_inj.mp (hdigits.symm.trans hdigits')

theorem IsDecimalLiteral.unique (hm : IsDecimalLiteral f suffix text m)
    (hn : IsDecimalLiteral f suffix text n) : m = n := by
  obtain ⟨numeral, d, i, hd, hi, rfl, htext⟩ := hm
  obtain ⟨numeral', d', j, hd', hj, rfl, htext'⟩ := hn
  have hsame := (String.append_left_inj suffix).mp (htext.symm.trans htext')
  rw [hsame, hd', Option.some_inj] at hd
  rw [hi.unique (hd ▸ hj)]

theorem IsTextLiteral.unique {s t : String} (hs : IsTextLiteral text s)
    (ht : IsTextLiteral text t) : s = t := by
  have hsame := Option.some_inj.mp (hs.symm.trans ht)
  simp only [Prod.mk.injEq, true_and, and_true] at hsame
  exact String.toList_inj.mp hsame

theorem AreTextLiterals.unique {ts : List Token} {values values' : List String}
    (h : AreTextLiterals ts values) (h' : AreTextLiterals ts values') : values = values' := by
  induction h generalizing values' with
  | nil =>
    cases h'
    rfl
  | single htext =>
    cases h' with
    | single htext' => rw [htext.unique htext']
  | cons htext _ _ ih =>
    cases h' with
    | cons htext' hrows _ => rw [htext.unique htext', ih hrows]

/-! ## Expressions -/

open DefaultCode (signed signedLiteral)

/-- An expression for a floating-point number with the sign and the magnitude that it has. -/
inductive IsFloatExpression (f : Format) (type : String) : List Token → Bool → ℕ → Prop
  | decimal {text : String} {n : ℕ} (negative : Bool) :
      IsDecimalLiteral f type text n →
      IsFloatExpression f type (signedLiteral negative text) negative n
  | infinite (negative : Bool) :
      IsFloatExpression f type
        (.word type :: code (if negative then ":: NEG_INFINITY" else ":: INFINITY"))
        negative f.infinity
  | notANumber :
      IsFloatExpression f type (.word type :: code ":: NAN") false
        (f.infinity + f.leadingOne / 2)

/-- An optional value that is there. -/
def someOf (inner : List Token) : List Token :=
  code ":: core :: option :: Option :: Some" ++ [.parens inner]

/-- A set that is collected from the strings of an array. -/
def collectedFrom (rows : List Token) : List Token :=
  [.brackets rows] ++ code ". into_iter" ++ [.parens []] ++ code ". map" ++
    [.parens (code ":: std :: string :: String :: from")] ++
    code ". collect :: < :: std :: collections :: BTreeSet < :: std :: string :: String >>" ++
    [.parens []] ++ code ","

/-- An expression for a string that may be absent. -/
inductive IsStringExpression : List Token → Option String → Prop
  | none : IsStringExpression (code ":: core :: option :: Option :: None") none
  | some {text value : String} :
      IsTextLiteral text value →
      IsStringExpression
        (someOf (code ":: std :: string :: String :: from" ++ [.parens [.literal text]]))
        (some value)

/-- An expression for a set of strings that may be absent. Of the strings that are collected the
order and the repetitions do not count. -/
inductive IsSetExpression : List Token → Option StringSet → Prop
  | none : IsSetExpression (code ":: core :: option :: Option :: None") none
  | empty :
      IsSetExpression (someOf (code ":: std :: collections :: BTreeSet :: new" ++ [.parens []]))
        (some SortedMap.empty)
  | collected {rows : List Token} {values : List String} {s : StringSet} :
      AreTextLiterals rows values → (∀ x, x ∈ s.toStrings ↔ x ∈ values) →
      IsSetExpression (someOf (collectedFrom rows)) (some s)

/-- The value that an expression has as one of the type of a kind. A whole number has that type by
its suffix. -/
inductive Evaluates : (k : StoredKind) → List Token → k.Value → Prop
  | boolean (b : Bool) : Evaluates .boolean (code (if b then "true" else "false")) b
  | integer {k : StoredKind} {v : k.Value} {type text : String} {negative : Bool} {n : ℕ} :
      k.codeType = [.word type] → IsWholeLiteral type text n →
      k.integer? v = some (signed negative n) → Evaluates k (signedLiteral negative text) v
  | float {ts : List Token} {negative : Bool} {n : ℕ} :
      IsFloatExpression binary32 "f32" ts negative n →
      Evaluates .float ts (Single.ofParts negative n)
  | double {ts : List Token} {negative : Bool} {n : ℕ} :
      IsFloatExpression binary64 "f64" ts negative n →
      Evaluates .double ts (Double.ofParts negative n)
  | string {ts : List Token} {s : Option String} :
      IsStringExpression ts s → Evaluates .string ts s
  | stringSet {ts : List Token} {s : Option StringSet} :
      IsSetExpression ts s → Evaluates .stringSet ts s

/-! ## Uniqueness -/

variable {ts : List Token}

theorem signedLiteral_inj {negative negative' : Bool} {text text' : String}
    (h : signedLiteral negative text = signedLiteral negative' text') :
    negative = negative' ∧ text = text' := by
  cases negative <;> cases negative' <;> cases h <;> exact ⟨rfl, rfl⟩

theorem signedLiteral_ne_word {negative : Bool} {text name : String} {rest : List Token} :
    signedLiteral negative text ≠ .word name :: rest := by
  cases negative <;> nofun

theorem code_boolean_inj {b b' : Bool}
    (h : code (if b then "true" else "false") = code (if b' then "true" else "false")) :
    b = b' := by
  cases b <;> cases b' <;> first | rfl | cases h

theorem IsFloatExpression.unique {type : String} {negative negative' : Bool} {m n : ℕ}
    (hm : IsFloatExpression f type ts negative m) (hn : IsFloatExpression f type ts negative' n) :
    negative = negative' ∧ m = n := by
  generalize hts : ts = ts' at hn
  cases hm with
  | decimal _ htext =>
    cases hn with
    | decimal _ htext' =>
      obtain ⟨rfl, rfl⟩ := signedLiteral_inj hts
      exact ⟨rfl, htext.unique htext'⟩
    | infinite | notANumber => exact absurd hts signedLiteral_ne_word
  | infinite =>
    cases hn with
    | decimal => exact absurd hts.symm signedLiteral_ne_word
    | infinite =>
      refine ⟨?_, rfl⟩
      cases negative <;> cases negative' <;> first | rfl | cases hts
    | notANumber => cases negative <;> cases hts
  | notANumber =>
    cases hn with
    | decimal => exact absurd hts.symm signedLiteral_ne_word
    | infinite => cases negative' <;> cases hts
    | notANumber => exact ⟨rfl, rfl⟩

theorem someOf_inj {inner inner' : List Token} (h : someOf inner = someOf inner') :
    inner = inner' := by
  cases List.append_cancel_left h
  rfl

theorem someOf_ne_none {inner : List Token} :
    someOf inner ≠ code ":: core :: option :: Option :: None" := by
  intro h
  have hlast := congrArg List.getLast? h
  rw [someOf, List.getLast?_concat] at hlast
  cases hlast

theorem collectedFrom_inj {rows rows' : List Token} (h : collectedFrom rows = collectedFrom rows') :
    rows = rows' := by
  have hhead : some (Token.brackets rows) = some (Token.brackets rows') := congrArg List.head? h
  cases hhead
  rfl

theorem IsStringExpression.unique {s t : Option String} (hs : IsStringExpression ts s)
    (ht : IsStringExpression ts t) : s = t := by
  generalize hts : ts = ts' at ht
  cases hs with
  | none =>
    cases ht with
    | none => rfl
    | some => exact absurd hts.symm someOf_ne_none
  | some htext =>
    cases ht with
    | none => exact absurd hts someOf_ne_none
    | some htext' =>
      cases List.append_cancel_left (someOf_inj hts)
      rw [htext.unique htext']

theorem IsSetExpression.unique {s t : Option StringSet} (hs : IsSetExpression ts s)
    (ht : IsSetExpression ts t) : s = t := by
  -- an array in brackets is no path
  have hrows : ∀ {rows rest}, collectedFrom rows ≠ code ":: std" ++ rest := fun h => by
    have hhead := congrArg List.head? h
    cases hhead
  generalize hts : ts = ts' at ht
  cases hs with
  | none =>
    cases ht with
    | none => rfl
    | empty | collected => exact absurd hts.symm someOf_ne_none
  | empty =>
    cases ht with
    | none => exact absurd hts someOf_ne_none
    | empty => rfl
    | collected => exact absurd (someOf_inj hts).symm hrows
  | collected hlist hmem =>
    cases ht with
    | none => exact absurd hts someOf_ne_none
    | empty => exact absurd (someOf_inj hts) hrows
    | collected hlist' hmem' =>
      cases collectedFrom_inj (someOf_inj hts)
      rw [hlist.unique hlist'] at hmem
      rw [StringSet.ext_toStrings fun x => (hmem x).trans (hmem' x).symm]

/-- **An expression has one value.** -/
theorem Evaluates.unique {k : StoredKind} {v w : k.Value} (hv : Evaluates k ts v)
    (hw : Evaluates k ts w) : v = w := by
  generalize hts : ts = ts' at hw
  cases hv with
  | boolean b =>
    cases hw with
    | boolean => exact code_boolean_inj hts
    | integer _ _ h => cases h
  | integer htype htext hi =>
    cases hw with
    | integer htype' htext' hi' =>
      obtain ⟨rfl, rfl⟩ := signedLiteral_inj hts
      cases htype.symm.trans htype'
      rw [htext.unique htext'] at hi
      exact StoredKind.integer?_injective hi hi'
    | _ => cases hi
  | float hfloat =>
    cases hw with
    | integer _ _ h => cases h
    | float hfloat' =>
      obtain ⟨rfl, rfl⟩ := hfloat.unique (hts ▸ hfloat')
      rfl
  | double hdouble =>
    cases hw with
    | integer _ _ h => cases h
    | double hdouble' =>
      obtain ⟨rfl, rfl⟩ := hdouble.unique (hts ▸ hdouble')
      rfl
  | string hstring =>
    cases hw with
    | integer _ _ h => cases h
    | string hstring' => exact hstring.unique (hts ▸ hstring')
  | stringSet hset =>
    cases hw with
    | integer _ _ h => cases h
    | stringSet hset' => exact hset.unique (hts ▸ hset')

end TypedPrefs
