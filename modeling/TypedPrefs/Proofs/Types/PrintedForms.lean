import TypedPrefs.Proofs.Types.Rereading

/-!
# Printed forms of references and parameters

What is read off a text is read off its own printed form again, however the text was written. So the
printed form tells one reference from another, and it is what a text can be replaced by.
-/

namespace TypedPrefs

open Code Grammar

namespace Code

theorem length_le_weightOf (ts : List Token) : ts.length ≤ Token.weightOf ts := by
  induction ts with
  | nil => exact Nat.le_refl _
  | cons t ts ih =>
    have hpos : 1 ≤ Token.weight t := by cases t <;> simp [Token.weight]
    rw [Token.weightOf, List.length_cons]
    omega

/-- A text without brackets is read as its tokens are, by readers that go deeper than there are
tokens. -/
theorem exists_depth_readAll? {α : Type} {s : String} {ts : List Token} (h : Lexes s.toList ts)
    (hmark : s.toList.head? ≠ some '\ufeff') :
    ∃ depth, ts.length < depth ∧
      ∀ read : Nested → Reader α, readAll? read s = whole? (read (nested depth)) ts := by
  refine ⟨8 * (Token.weightOf ts + 1), ?_, fun read => ?_⟩
  · have hlength := length_le_weightOf ts
    omega
  · rw [readAll?, tokens?_of_lexes h hmark]
    rfl

theorem whole?_of_eq_some {α : Type} {read : Reader α} {ts : List Token} {a : α}
    (h : read ts = some (a, [])) : whole? read ts = some a := by
  rw [whole?, h]

end Code

namespace TypeRef

theorem IsCanonical.head?_display {t : TypeRef} (h : IsCanonical t) :
    t.display.toList.head? ≠ some '\ufeff' := by
  cases h with
  | primitive kind => cases kind <;> decide
  | void => decide
  | declared hpath _ =>
    rw [toList_display]
    exact head?_pathName _ hpath.ne_nil (fun w hw => (hpath.words w hw).lexed) _

/-- A reference that can be read off a text is read off its printed form. -/
theorem IsCanonical.parse_display {t : TypeRef} (h : IsCanonical t) : parse t.display = .ok t := by
  obtain ⟨own, hlexes, hreads⟩ := h.spelled endsWord_nil lexes_nil
  rw [List.append_nil, List.append_nil] at hlexes
  obtain ⟨depth, hdepth, hall⟩ := exists_depth_readAll? hlexes h.head?_display
  obtain ⟨-, hread⟩ := hreads hdepth endsAt_nil
  obtain ⟨syn, hsyn, hmeans⟩ := hread true
  rw [List.append_nil] at hsyn
  rw [parse, typeSyntax?, hall, whole?_of_eq_some hsyn]
  exact mapError_eq_ok_iff.mpr hmeans

/-- **What can be read** off some text is what has the form of a path. -/
theorem exists_parse_iff {t : TypeRef} : (∃ e, parse e = .ok t) ↔ IsCanonical t := by
  constructor
  · rintro ⟨e, h⟩
    exact isCanonical_of_parse h
  · intro h
    exact ⟨_, h.parse_display⟩

end TypeRef

namespace TypeParam

open TypeRef

theorem ofBounds_of_forall₂ {bounds : List (BoundSyntax × Bool)} {ts : List TypeRef}
    (h : List.Forall₂ (fun b t => ∃ p tokens, b.1 = .type p tokens ∧ ofPath false p = .ok t)
      bounds ts) :
    ofBounds (bounds.map Prod.fst) = .ok ts := by
  induction h with
  | nil => rfl
  | @cons b t bounds ts hb _ ih =>
    obtain ⟨b, plus⟩ := b
    obtain ⟨p, tokens, rfl, hp⟩ := hb
    rw [List.map_cons, ofBounds, hp, ih]
    rfl

/-- Tokens that are read as a reference are read as a bound among others. -/
theorem exists_bound {own : List Token} {t : TypeRef} (h : ReadsAsBound own t) {depth : Nat}
    (hdepth : own.length < depth) {rest : List Token} (hrest : EndsAt pathEnds rest)
    (place : BoundPlace) :
    ∃ b, (∃ p tokens, b = .type p tokens ∧ ofPath false p = .ok t) ∧
      endsParameterBounds (own ++ rest) = false ∧
      (nested depth).bound place (own ++ rest) = some (b, rest) := by
  obtain ⟨hstart, hread⟩ := h hdepth hrest
  obtain ⟨p, hp, hmeans⟩ := hread place
  refine ⟨.type p p.tokens, ⟨p, p.tokens, rfl, hmeans⟩, ?_, hp⟩
  rw [endsParameterBounds, hstart.isEmpty_eq_false, beginsAny]
  simp [hstart.begins_eq_false]

/-- Bounds are read one after the other. -/
theorem exists_bounds {own : List Token} {owns : List (List Token)} {t : TypeRef}
    {ts : List TypeRef} (h : List.Forall₂ ReadsAsBound (own :: owns) (t :: ts)) {depth : Nat}
    (hdepth : ∀ o ∈ own :: owns, o.length < depth) :
    ∃ series, Grammar.bounds (nested depth) endsParameterBounds
        (own ++ owns.flatMap (.mark '+' false :: ·)) = some (series, []) ∧
      ofBounds (series.map Prod.fst) = .ok (t :: ts) := by
  have hread : List.Forall₂ (fun own t => ∀ rest, EndsAt pathEnds rest → ∃ b,
      (∃ p tokens, b = .type p tokens ∧ ofPath false p = .ok t) ∧
        endsParameterBounds (own ++ rest) = false ∧
        (nested depth).bound ⟨false, true⟩ (own ++ rest) = some (b, rest))
      (own :: owns) (t :: ts) := by
    refine ((List.forall₂_and_left _ _).mpr ⟨hdepth, h⟩).imp ?_
    intro o b ho rest hrest
    exact exists_bound ho.2 ho.1 hrest _
  have hfuel : owns.length < (own ++ owns.flatMap (.mark '+' false :: ·)).length + 1 := by
    have hlength := length_le_flatMap_cons (.mark '+' false) owns
    rw [List.length_append]
    omega
  obtain ⟨series, hseries, hmeans⟩ := separatedWithin_of_forall₂
    (show '+' ∈ pathEnds by decide) endsAt_nil rfl hread hfuel
  rw [List.append_nil] at hseries
  exact ⟨series, hseries, ofBounds_of_forall₂ hmeans⟩

/-! ## Parameters as tokens -/

/-- The bounds of a parameter as they are written. -/
def boundChars : List TypeRef → List Char
  | [] => []
  | b :: bs =>
    ':' :: ' ' :: (b.display.toList ++ bs.flatMap fun b => [' ', '+', ' '] ++ b.display.toList)

theorem toList_displayBounds (bs : List TypeRef) :
    (displayBounds " + " bs).toList = bs.flatMap fun b => [' ', '+', ' '] ++ b.display.toList := by
  induction bs with
  | nil => simp [displayBounds]
  | cons b bs ih => simp [displayBounds, String.toList_append, ih]

theorem toList_display (p : TypeParam) :
    p.display.toList = p.name.toList ++ boundChars p.bounds := by
  obtain ⟨name, bounds⟩ := p
  cases bounds with
  | nil => simp [display, displayBounds, boundChars]
  | cons b bs =>
    simp [display, displayBounds, boundChars, String.toList_append, toList_displayBounds]

/-- Readers that go deeper than there are tokens read these as the bounds of a parameter behind its
name. -/
def ReadsAsBounds (tail : List Token) (bs : List TypeRef) : Prop :=
  ∀ ⦃depth⦄, tail.length ≤ depth → ∀ ⦃w⦄, isIdentifierWord w = true →
    ∃ series, namedParameter (nested depth) (.word w :: tail) =
      some (.type [] w series [], []) ∧ ofBounds (series.map Prod.fst) = .ok bs

theorem leading_word (r : Nested) (w : String) (ts : List Token) :
    leading r (.word w :: ts) = some ([], .word w :: ts) := rfl

theorem readsAsBounds_nil : ReadsAsBounds [] [] := by
  intro depth _ w hw
  have hname : identifier [.word w] = some (w, []) := if_pos hw
  refine ⟨[], ?_, rfl⟩
  rw [namedParameter, bind_of_eq_some (leading_word _ _ _), typeParameter, bind_of_eq_some hname]
  rfl

theorem readsAsBounds_cons {own : List Token} {owns : List (List Token)} {b : TypeRef}
    {bs : List TypeRef} (h : List.Forall₂ ReadsAsBound (own :: owns) (b :: bs)) :
    ReadsAsBounds (.mark ':' false :: (own ++ owns.flatMap (.mark '+' false :: ·))) (b :: bs) := by
  intro depth hdepth w hw
  have hlength : ∀ o ∈ own :: owns, o.length < depth := fun o ho =>
    Nat.lt_of_le_of_lt (length_le_of_mem_row ho (.mark '+' false)) hdepth
  obtain ⟨series, hbounds, hmeans⟩ := exists_bounds h hlength
  refine ⟨series, ?_, hmeans⟩
  have hname : ∀ ts, identifier (.word w :: ts) = some (w, ts) := fun _ => if_pos hw
  have hcolon : ∀ ts, operatorIf [':'] (.mark ':' false :: ts) =
      some (Token.operator [':'], ts) := fun _ => rfl
  rw [namedParameter, bind_of_eq_some (leading_word _ _ _), typeParameter,
    bind_of_eq_some (hname _), bind_of_eq_some (hcolon _)]
  exact bind_of_eq_some hbounds

theorem exists_boundTokens {bs : List TypeRef} (h : ∀ b ∈ bs, IsCanonicalBound b) :
    ∃ tail, EndsWord (boundChars bs) ∧ Lexes (boundChars bs) tail ∧ ReadsAsBounds tail bs := by
  cases bs with
  | nil => exact ⟨[], endsWord_nil, lexes_nil, readsAsBounds_nil⟩
  | cons b bs =>
    obtain ⟨hb, hbs⟩ := List.forall_mem_cons.mp h
    have hplus : ∀ {cs ts}, Lexes cs ts → Lexes ([' ', '+', ' '] ++ cs) (.mark '+' false :: ts) :=
      fun h => (h.blank.mark (by decide)).blank
    have hends : ∀ cs, EndsWord ([' ', '+', ' '] ++ cs) :=
      fun _ => endsWord_of_separator (by decide)
    obtain ⟨owns, hreads, hrow⟩ :=
      exists_row hplus hends (fun b hb => (hbs b hb).spelled) endsWord_nil lexes_nil
    obtain ⟨own, hown, hread⟩ := hb.spelled (endsWord_row hends bs endsWord_nil) hrow
    have hcolon : Lexes (':' :: ' ' :: _) (.mark ':' false :: _) := hown.blank.mark (by decide)
    refine ⟨_, endsWord_of_separator (by decide), ?_, readsAsBounds_cons (.cons hread hreads)⟩
    simpa [boundChars] using hcolon

theorem IsCanonical.head?_display {p : TypeParam} (h : IsCanonical p) :
    p.display.toList.head? ≠ some '\ufeff' := by
  obtain ⟨c, rest, hchars, hpart⟩ := h.lexed.exists_cons
  rw [toList_display, hchars]
  rintro ⟨⟩
  exact Text.ne_of_foreign hpart (d := '\ufeff') (by decide) rfl

/-- A parameter that can be read off a text is read off its printed form. -/
theorem IsCanonical.parse_display {p : TypeParam} (h : IsCanonical p) :
    parse p.display = .ok p := by
  obtain ⟨tail, hends, htail, hreads⟩ := exists_boundTokens h.bounds
  have hlexes := htail.word h.lexed hends
  rw [← toList_display] at hlexes
  obtain ⟨depth, hdepth, hall⟩ := exists_depth_readAll? hlexes h.head?_display
  obtain ⟨series, hread, hmeans⟩ := hreads (Nat.le_of_succ_le (Nat.le_of_lt hdepth)) h.identifier
  have hsyntax : parameterSyntax? p.display = some (p.name, series.map Prod.fst) := by
    rw [parameterSyntax?, hall, whole?_of_eq_some hread]
  rw [parse, hsyntax]
  dsimp only
  rw [hmeans]

/-- A parameter can be read off some text if its name and its bounds can stand in one. -/
theorem exists_parse_iff {p : TypeParam} : (∃ e, parse e = .ok p) ↔ IsCanonical p := by
  constructor
  · rintro ⟨e, h⟩
    exact isCanonical_of_parse h
  · intro h
    exact ⟨_, h.parse_display⟩

end TypeParam

/-- **Printed forms are canonical.** What any text is read as, a reference or a parameter, is read
off its printed form, too, and references with one printed form are the same. -/
theorem printed_forms_canonical :
    (∀ e t, TypeRef.parse e = .ok t → TypeRef.parse t.display = .ok t) ∧
    (∀ e e' t t', TypeRef.parse e = .ok t → TypeRef.parse e' = .ok t' →
      t.display = t'.display → t = t') ∧
    ∀ e p, TypeParam.parse e = .ok p → TypeParam.parse p.display = .ok p := by
  have hreads : ∀ e t, TypeRef.parse e = .ok t → TypeRef.parse t.display = .ok t :=
    fun _ _ h => (TypeRef.isCanonical_of_parse h).parse_display
  refine ⟨hreads, fun e e' t t' h h' heq => ?_, fun _ _ h =>
    (TypeParam.isCanonical_of_parse h).parse_display⟩
  have hsame := hreads e t h
  rw [heq, hreads e' t' h'] at hsame
  exact (Except.ok.inj hsame).symm

/-- Blanks, parentheses, the names of primitives in code, the empty tuple and a comma behind the
last argument are not printed; nor are a relaxed bound's mark and the default of a parameter, where
`char` is no primitive. -/
theorem printed_forms_canonical_map :
    let t : TypeRef := .declared "::a::Map" [.primitive .int, .declared "Set" [.void]]
    let p : TypeParam := ⟨"T", [.named "Sized", .named "char"]⟩
    TypeRef.parse "::a :: Map < ( i32 ) , Set<()>,>" = .ok t ∧
    t.display = "::a::Map<int, Set<void>>" ∧ TypeRef.parse t.display = .ok t ∧
    TypeParam.parse "T: ?Sized + char = u8" = .ok p ∧
    p.display = "T: Sized + char" ∧ TypeParam.parse p.display = .ok p := by
  intro t p
  have ht : TypeRef.parse "::a :: Map < ( i32 ) , Set<()>,>" = .ok t := by decide +kernel
  have hp : TypeParam.parse "T: ?Sized + char = u8" = .ok p := by decide +kernel
  obtain ⟨hreads, -, hparams⟩ := printed_forms_canonical
  exact ⟨ht, by decide +kernel, hreads _ t ht, hp, by decide +kernel, hparams _ p hp⟩

end TypedPrefs
