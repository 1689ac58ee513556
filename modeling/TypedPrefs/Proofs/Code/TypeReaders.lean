import TypedPrefs.Code.Grammar
import TypedPrefs.Proofs.Code.Readers

/-!
# What readers hand down to types

The paths in a type are made of words of its text, one segment after the other. So a property of
types that comes with those of their paths, and one of segments that comes with their words and
arguments, hold of what is read. Types and bounds hold one another, so this is shown for both at
once, one level of nesting after the other; what else types may hold stands in brackets, and is
behind them whatever it is.
-/

namespace TypedPrefs.Code

open Grammar

/-- The words of paths that take no arguments. -/
def bareWords : List String := ["super", "self", "crate", "try"]

/-- A word that is read as the name of a segment. -/
def IsSegmentName (w : String) : Prop := w ∈ bareWords ∨ w = "Self" ∨ isIdentifierWord w = true

/-- A path of segments with a property. -/
structure PathOf (S : SegmentSyntax → Prop) (p : PathSyntax) : Prop where
  ne_nil : p.segments ≠ []
  segments : ∀ s ∈ p.segments, S s

/-- The argument has a property if it is a type. -/
def TypeArgument (T : TypeSyntax → Prop) (x : ArgumentSyntax) : Prop :=
  ∀ t comma, x = .type t comma → T t

/-- A bound by a type consists of segments with a property, unless the last of them takes the
arguments of a function. -/
def BoundOf (S : SegmentSyntax → Prop) (b : BoundSyntax) : Prop :=
  ∀ p tokens, b = .type p tokens →
    PathOf S p ∨ ∃ (q : PathSyntax) (arguments : List Token),
      PathOf S q ∧ p = q.withArguments (.function arguments)

/-- Properties of types and of segments that come with those of words and of parts. What is kept as
tokens always has them. -/
structure Inherited (W : String → Prop) (T : TypeSyntax → Prop) (S : SegmentSyntax → Prop) :
    Prop where
  unit : T .unit
  paren : ∀ {t}, T t → T (.paren t)
  lone : ∀ inParens bound, T (.lone inParens bound)
  other : ∀ tokens, T (.other tokens)
  path : ∀ {p}, PathOf S p →
    (p.absolute = false → ∀ s ∈ p.segments.head?, beginsPath [.word s.name] = true) → T (.path p)
  bare : ∀ {w}, W w → IsSegmentName w → S (.mk w .none)
  angle : ∀ {w colons items}, W w → IsSegmentName w → w ∉ bareWords →
    (∀ x ∈ items, TypeArgument T x) → S (.mk w (.angle colons items))

theorem TypeArgument.withComma {T : TypeSyntax → Prop} {x : ArgumentSyntax}
    (h : TypeArgument T x) (comma : Bool) : TypeArgument T (x.withComma comma) := by
  cases x with
  | type t c =>
    rintro t' comma' ⟨⟩
    exact h t c rfl
  | _ => exact nofun

variable {W : String → Prop} {T : TypeSyntax → Prop} {S : SegmentSyntax → Prop}

namespace Grammar

open Token

variable {r : Nested}

/-- The readers for types and bounds inside of other code give what has the properties. -/
structure Provides (W : String → Prop) (T : TypeSyntax → Prop) (S : SegmentSyntax → Prop)
    (r : Nested) : Prop where
  inherited : Inherited W T S
  type : ∀ plus, Gives W T (r.type plus)
  bound : ∀ place, Gives W (BoundOf S) (r.bound place)

/-! ## Attributes -/

theorem keeps_leading (r : Nested) : Keeps W (leading r) :=
  (gives_many _ ((keeps_operator _).andThen fun _ => keeps_inGroup _ _)).andThen fun _ =>
    keeps_pure _

theorem keeps_callArguments : Keeps W callArguments :=
  keeps_inRow ⟨keeps_operator _, keeps_rawGroup⟩

section

variable (hr : Provides W T S r)

include hr

theorem Provides.written (plus : Bool) : Keeps W (written r plus) :=
  (hr.type plus).andThen fun _ => keeps_pure _

theorem Provides.result (plus : Bool) : Keeps W (result r plus) :=
  keeps_whenAhead _ (keeps_inRow ⟨keeps_operator _, hr.written plus⟩)

end

/-! ## Paths -/

theorem keeps_constant (r : Nested) : Keeps W (constant r) :=
  gives_select ⟨keeps_literal.andThen fun _ => keeps_pure _, keeps_name, keeps_group _ _⟩

section

variable (hr : Provides W T S r)

include hr

theorem Provides.associated (named : List Token) :
    Gives W (TypeArgument T) (associated r named) := by
  have hnone : ∀ tokens, TypeArgument T (.associated tokens false) := fun _ => nofun
  refine (keeps_ahead _).andThen fun _ => gives_ite ?_ ?_
  · refine (keeps_operator _).andThen fun _ => (keeps_ahead _).andThen fun _ => ?_
    exact gives_ite ((keeps_constant r).andThen fun _ => gives_pure (hnone _))
      ((hr.written true).andThen fun _ => gives_pure (hnone _))
  · have hbounds := keeps_series ['+'] (beginsAny [[','], ['>']])
      ((hr.bound ⟨false, true⟩).andThen fun b => keeps_pure b.tokens)
    exact (keeps_operator _).andThen fun _ => hbounds.andThen fun _ => gives_pure (hnone _)

theorem Provides.argument : Gives W (TypeArgument T) (argument r) := by
  refine gives_get.andThen fun ts => gives_ite ?_ (gives_ite ?_ ?_)
  · exact keeps_lifetimeName.andThen fun _ => gives_pure nofun
  · exact (keeps_constant r).andThen fun _ => gives_pure nofun
  · refine (hr.type true).bind fun t ht => gives_get.andThen fun _ => ?_
    -- behind the name of an associated item, what was read as a type is kept as tokens
    refine gives_ite (hr.associated _) (gives_pure ?_)
    rintro _ _ ⟨⟩
    exact ht

theorem Provides.angleArguments :
    Gives W (fun x => ∃ colons items, x = .angle colons items ∧ ∀ y ∈ items, TypeArgument T y)
      (angleArguments r) := by
  refine (keeps_operatorIf _).andThen fun _ => (keeps_operator _).andThen fun _ => ?_
  refine (gives_separated _ _ hr.argument).bind fun items hitems => ?_
  refine (keeps_operator _).andThen fun _ => gives_pure ⟨_, _, rfl, fun y hy => ?_⟩
  obtain ⟨item, hitem, rfl⟩ := List.mem_map.mp hy
  exact (hitems item hitem).withComma item.2

theorem Provides.segment (inExpression : Bool) : Gives W S (segment r inExpression) := by
  refine gives_someWord.bind fun w hw => gives_cases (fun hbare => ?_) fun hother =>
    gives_cases (fun _ => gives_failure) fun hname => ?_
  · exact gives_pure (hr.inherited.bare hw (.inl (List.contains_iff_mem.mp hbare)))
  · have hnamed : IsSegmentName w := by
      rw [Bool.and_eq_true, not_and_or, bne_iff_ne, not_not, Bool.not_eq_true'] at hname
      exact .inr (hname.imp_right (by simp))
    refine gives_get.andThen fun _ => gives_ite ?_ (gives_pure (hr.inherited.bare hw hnamed))
    refine hr.angleArguments.bind ?_
    rintro _ ⟨colons, items, rfl, hitems⟩
    exact gives_pure (hr.inherited.angle hw hnamed
      (fun hbare => hother (List.contains_iff_mem.mpr hbare)) hitems)

omit hr in
/-- A segment begins with its name. -/
theorem eq_word_of_segment {ts rest : List Token} {s : SegmentSyntax} {inExpression : Bool}
    (h : segment r inExpression ts = some (s, rest)) : ∃ more, ts = .word s.name :: more := by
  rw [Grammar.segment] at h
  obtain ⟨w, more, hword, h⟩ := exists_of_bind h
  have hts : ts = .word w :: more := by
    unfold someWord at hword
    split at hword <;> cases hword
    rfl
  have hname : s.name = w := by
    split at h
    · cases h
      rfl
    · split at h
      · cases h
      · obtain ⟨_, _, hget, h⟩ := exists_of_bind h
        split at h
        · obtain ⟨arguments, behind, -, h⟩ := exists_of_bind h
          cases h
          rfl
        · cases h
          rfl
  exact ⟨more, hname ▸ hts⟩

theorem Provides.furtherSegment (inExpression : Bool) : Gives W S (furtherSegment r inExpression) :=
  (keeps_operator _).andThen fun _ => hr.segment inExpression

theorem Provides.path (inExpression : Bool) : Gives W (PathOf S) (path r inExpression) := by
  refine (keeps_operatorIf _).andThen fun _ => (hr.segment inExpression).bind fun first hfirst => ?_
  refine (gives_many _ (hr.furtherSegment inExpression)).bind fun more hmore => gives_pure ?_
  exact ⟨by simp [PathSyntax.segments], List.forall_mem_cons.mpr ⟨hfirst, hmore⟩⟩

theorem Provides.qualifiedPath (inExpression : Bool) : Keeps W (qualifiedPath r inExpression) := by
  have hfurther := gives_many (begins [':', ':']) (hr.furtherSegment inExpression)
  refine (keeps_operator _).andThen fun _ => (hr.written true).andThen fun _ =>
    (keeps_ahead _).andThen fun _ => gives_ite ?_ ?_
  · refine (keeps_word _).andThen fun _ => (hr.path false).andThen fun _ => ?_
    refine (keeps_pure _).andThen fun _ => (keeps_operator _).andThen fun _ => ?_
    exact hfurther.andThen fun _ => gives_ite gives_failure_bind (keeps_pure _)
  · refine (keeps_pure _).andThen fun _ => (keeps_operator _).andThen fun _ => ?_
    exact hfurther.andThen fun _ => gives_ite gives_failure_bind (keeps_pure _)

/-! ## Parameters -/

omit hr in
theorem keeps_lifetimeBounds (ends : List Token → Bool) : Keeps W (lifetimeBounds ends) :=
  (keeps_operatorIf _).andThen fun _ =>
    gives_ite (keeps_pure _) (keeps_series _ _ keeps_lifetime)

theorem Provides.bounds (ends : List Token → Bool) :
    Gives W (fun bounds => ∀ b ∈ bounds, BoundOf S b.1) (bounds r ends) :=
  gives_separated _ _ (hr.bound _)

/-- A type parameter has a name and bounds. -/
def TypeParameterOf (W : String → Prop) (S : SegmentSyntax → Prop) (p : ParameterSyntax) : Prop :=
  ∀ attributes name bounds default, p = .type attributes name bounds default →
    W name ∧ isIdentifierWord name = true ∧ ∀ b ∈ bounds, BoundOf S b.1

theorem Provides.typeParameter (attributes : List Token) :
    Gives W (TypeParameterOf W S) (typeParameter r attributes) := by
  have hdefault :
      Keeps W (whenAhead (begins ['=']) (inRow [operator ['='], Grammar.written r true])) :=
    keeps_whenAhead _ (keeps_inRow ⟨keeps_operator _, hr.written true⟩)
  refine gives_identifier.bind fun w hw => (keeps_operatorIf _).andThen fun _ => ?_
  have hend : ∀ bounds : BoundSeries, (∀ b ∈ bounds, BoundOf S b.1) →
      Gives W (TypeParameterOf W S) (do
        let default ← whenAhead (begins ['=']) (inRow [operator ['='], Grammar.written r true])
        return .type attributes w bounds default) := by
    refine fun bounds hbounds => hdefault.andThen fun _ => gives_pure ?_
    rintro _ _ _ _ ⟨⟩
    exact ⟨hw.1, hw.2, hbounds⟩
  exact gives_ite ((gives_pure nofun).bind hend) ((hr.bounds _).bind hend)

theorem Provides.constantParameter (attributes : List Token) :
    Keeps W (constantParameter r attributes) := by
  have hdefault : Keeps W (whenAhead (begins ['=']) (inRow [operator ['='], constant r])) :=
    keeps_whenAhead _ (keeps_inRow ⟨keeps_operator _, keeps_constant r⟩)
  refine (keeps_word _).andThen fun _ => keeps_identifier.andThen fun _ => ?_
  refine (keeps_operator _).andThen fun _ => (hr.written true).andThen fun _ => ?_
  exact hdefault.andThen fun _ => keeps_pure _

theorem Provides.parameter : Keeps W (parameter r) := by
  refine (keeps_leading r).andThen fun _ => (keeps_ahead _).andThen fun _ => gives_ite ?_ ?_
  · exact keeps_lifetimeName.andThen fun _ => (keeps_lifetimeBounds _).andThen fun _ =>
      keeps_pure _
  · exact (keeps_ahead _).andThen fun _ =>
      gives_ite (hr.constantParameter _) (hr.typeParameter _).keeps

theorem Provides.binder : Keeps W (binder r) := by
  have hlist := keeps_series [','] (begins ['>'])
    (hr.parameter.andThen fun p => keeps_pure p.tokens)
  exact keeps_whenAhead _ (keeps_inRow ⟨keeps_word _, keeps_operator _, hlist, keeps_operator _⟩)

/-! ## Bounds -/

theorem Provides.functionArguments : Keeps W (functionArguments r) :=
  keeps_inRow ⟨keeps_group _ _, hr.result false⟩

theorem Provides.boundPath :
    Gives W (fun p => PathOf S p ∨
      ∃ (q : PathSyntax) (arguments : List Token),
        PathOf S q ∧ p = q.withArguments (.function arguments))
      (boundPath r) := by
  refine (hr.path false).bind fun p hp => gives_get.andThen fun _ => ?_
  refine gives_ite ?_ (gives_pure (.inl hp))
  exact (keeps_operatorIf _).andThen fun _ => hr.functionArguments.andThen fun arguments =>
    gives_pure (.inr ⟨p, arguments, hp, rfl⟩)

omit hr in
theorem keeps_constantMark (place : BoundPlace) : Keeps W (constantMark place) := by
  refine gives_get.andThen fun _ => gives_ite (gives_ite ?_ gives_failure) (keeps_pure _)
  exact gives_ite (keeps_group _ _) (keeps_word _)

theorem Provides.typeBound (place : BoundPlace) :
    Gives W (fun found => ∀ tokens, BoundOf S (.type found.2.1 tokens)) (typeBound r place) := by
  refine hr.binder.andThen fun _ => (keeps_constantMark _).andThen fun _ =>
    (keeps_operatorIf _).andThen fun _ => gives_get.andThen fun _ => ?_
  refine gives_ite gives_failure_bind (hr.boundPath.bind fun p hp => gives_pure ?_)
  rintro _ _ _ ⟨⟩
  exact hp

omit hr in
theorem keeps_captured : Keeps W captured := by
  refine (keeps_ahead _).andThen fun _ => gives_ite ?_ ?_
  · exact keeps_lifetime.andThen fun _ => keeps_pure _
  · refine (keeps_ahead _).andThen fun _ => gives_ite ?_ gives_failure
    exact gives_someWord.andThen fun _ => keeps_pure _

omit hr in
theorem keeps_captures : Keeps W captures :=
  (keeps_word _).andThen fun _ => (keeps_operator _).andThen fun _ =>
    (gives_separated _ _ keeps_captured).andThen fun _ => (keeps_operator _).andThen fun _ =>
      keeps_pure _

theorem Provides.namedBound (place : BoundPlace) : Gives W (BoundOf S) (namedBound r place) := by
  have hend : ∀ (start : List Token) (inParens isConstant : Bool) (p : PathSyntax)
      (tokens : List Token), (∀ tokens, BoundOf S (.type p tokens)) →
      Gives W (BoundOf S) (do
        if isConstant then return BoundSyntax.constant (← usedSince start)
        else return BoundSyntax.type p (if inParens then [.parens tokens] else tokens)) :=
    fun _ _ _ _ _ hp =>
      gives_ite ((keeps_usedSince _).andThen fun _ => gives_pure nofun) (gives_pure (hp _))
  refine gives_get.andThen fun _ => gives_ite ?_ ?_
  · refine (gives_inGroup _ (hr.typeBound place)).bind ?_
    rintro ⟨isConstant, p, tokens⟩ hp
    exact hend _ _ _ _ _ hp
  · refine (hr.typeBound place).bind ?_
    rintro ⟨isConstant, p, tokens⟩ hp
    exact hend _ _ _ _ _ hp

theorem Provides.boundStep (place : BoundPlace) : Gives W (BoundOf S) (boundStep r place) := by
  refine (keeps_ahead _).andThen fun _ => gives_ite ?_ ?_
  · exact keeps_lifetimeName.andThen fun _ => gives_pure nofun
  · refine (keeps_ahead _).andThen fun _ => gives_ite ?_ (hr.namedBound place)
    exact keeps_captures.andThen fun _ => gives_ite (gives_pure nofun) gives_failure

/-! ## Types -/

theorem Provides.objectBounds (place : BoundPlace) (plus : Bool) :
    Keeps W (objectBounds r place plus) := by
  refine gives_ite ?_ ?_
  · exact (gives_separated _ _ (hr.bound place)).andThen fun _ =>
      gives_ite (keeps_pure _) gives_failure
  · exact (hr.bound place).andThen fun _ => (keeps_pure _).andThen fun _ =>
      gives_ite (keeps_pure _) gives_failure

/-- The tokens of a bound behind a plus sign. -/
theorem Provides.boundTokens (place : BoundPlace) :
    Keeps W (do return (← r.bound place).tokens : Reader (List Token)) :=
  (hr.bound place).andThen fun _ => keeps_pure _

theorem Provides.furtherBounds : Keeps W (furtherBounds r) :=
  keeps_whenAhead _ (keeps_inRow ⟨keeps_operator _, keeps_series _ _ (hr.boundTokens _)⟩)

theorem Provides.requiredBounds : Keeps W (requiredBounds r) :=
  keeps_repeatWhile _ (keeps_inRow ⟨keeps_operator _, hr.boundTokens _⟩)

omit hr in
theorem keeps_convention : Keeps W convention :=
  keeps_whenAhead _ (keeps_inRow ⟨keeps_word _,
    keeps_whenAhead _ (keeps_literal.andThen fun _ => keeps_pure _)⟩)

theorem Provides.functionType : Keeps W (functionType r) :=
  keeps_inRow ⟨keeps_wordIf _, keeps_convention, keeps_word _, keeps_group _ _, hr.result false⟩

omit hr in
theorem keeps_builtin : Keeps W builtin :=
  have hsign : Keeps W (inRow [word "builtin", operator ['#'], name]) :=
    keeps_inRow ⟨keeps_word _, keeps_operator _, keeps_name⟩
  keeps_verbatim (hsign.andThen fun _ => (keeps_expecting _).andThen fun _ => keeps_rawGroup)

/-- Where a type may begin with a path. -/
def beginsPathType (ts : List Token) : Bool := beginsPath ts || beginsAny [[':', ':'], ['<']] ts

omit hr in
/-- A path that does not begin with colons begins with its first name. -/
theorem eq_word_of_path {ts rest : List Token} {p : PathSyntax} {inExpression : Bool}
    (h : path r inExpression ts = some (p, rest)) (habsolute : p.absolute = false) :
    begins [':', ':'] ts = false ∧ ∀ s ∈ p.segments.head?, ∃ more, ts = .word s.name :: more := by
  obtain ⟨colons, ts', hcolons, h⟩ := exists_of_bind h
  obtain ⟨first, behind, hfirst, h⟩ := exists_of_bind h
  obtain ⟨more, last, -, h⟩ := exists_of_bind h
  cases h
  rw [operatorIf] at hcolons
  split at hcolons
  · cases hcolons
    cases habsolute
  · next hnone =>
    cases hcolons
    refine ⟨by rw [begins, hnone]; rfl, ?_⟩
    rintro _ ⟨⟩
    exact eq_word_of_segment hfirst

theorem Provides.pathType (plus : Bool) (bound : List Token) :
    GivesWhere W T beginsPathType (pathType r plus bound) := by
  intro ts hbegins hts t rest hread
  have hother : ∀ tokens, T (.other tokens) := hr.inherited.other
  rw [Grammar.pathType] at hread
  obtain ⟨qualified, _, hqualified, hread⟩ := exists_of_bind hread
  cases hqualified
  split at hread
  · have hend := (hr.qualifiedPath false).andThen fun found => gives_pure (hother found.2)
    exact hend hts hread
  next hplain =>
  obtain ⟨p, behind, hpath, hread⟩ := exists_of_bind hread
  obtain ⟨hp, hbehind⟩ := hr.path false hts hpath
  have ht : T (.path p) := by
    refine hr.inherited.path hp fun habsolute s hs => ?_
    obtain ⟨hcolons, hword⟩ := eq_word_of_path hpath habsolute
    obtain ⟨more, rfl⟩ := hword s hs
    -- what begins the path is its first name, and only that counts
    rw [Bool.not_eq_true] at hplain
    have hhead : beginsPath (.word s.name :: more) = true := by
      simpa [beginsPathType, beginsAny, hcolons, hplain] using hbegins
    exact hhead
  have hend : ∀ more : List Token, Gives W T
      (if bound.isEmpty && more.isEmpty then return .path p
      else if more.isEmpty then return .lone false (bound ++ p.tokens)
      else return .other (bound ++ p.tokens ++ more) : Reader TypeSyntax) := fun _ =>
    gives_ite (gives_pure ht)
      (gives_ite (gives_pure (hr.inherited.lone _ _)) (gives_pure (hother _)))
  refine Gives.run ?_ hbehind hread
  refine gives_get.andThen fun _ => gives_ite ?_ (gives_ite ?_ ?_)
  · exact keeps_callArguments.andThen fun _ => gives_pure (hother _)
  · exact hr.furtherBounds.andThen hend
  · exact (keeps_pure _).andThen hend

theorem Provides.parenthesizedBound (bound : List Token) :
    Gives W T (parenthesizedBound r bound) :=
  hr.requiredBounds.andThen fun _ =>
    gives_ite (gives_pure (hr.inherited.lone _ _)) (gives_pure (hr.inherited.other _))

theorem Provides.parenthesisContent :
    Gives W (fun found => match found with
      | .inl t => T t
      | .inr items => ∀ item ∈ items, T item.1) (parenthesisContent r) := by
  refine gives_get.andThen fun _ => gives_ite ?_ (gives_ite ?_ ?_)
  · exact (hr.objectBounds _ _).andThen fun _ =>
      gives_pure (hr.inherited.paren (hr.inherited.other _))
  · exact (hr.typeBound _).andThen fun _ => gives_pure (hr.inherited.lone _ _)
  · exact (gives_separated _ _ (hr.type true)).bind fun _ hitems => gives_pure hitems

theorem Provides.parenthesized (plus : Bool) : Gives W T (parenthesized r plus) := by
  refine (gives_inGroup _ hr.parenthesisContent).bind fun found hfound => ?_
  split
  · exact hr.parenthesizedBound _
  · exact gives_pure hfound
  · exact gives_pure hr.inherited.unit
  · next t =>
    have ht : T (.paren t) := hr.inherited.paren (hfound _ (List.mem_singleton_self _))
    refine gives_get.andThen fun _ => gives_ite ?_ (gives_pure ht)
    split
    · exact hr.parenthesizedBound _
    · exact hr.parenthesizedBound _
    · exact gives_pure ht
  · exact gives_pure (hr.inherited.other _)

omit hr in
theorem keeps_bracketed (r : Nested) : Keeps W (bracketed r) := keeps_group _ _

theorem Provides.pointer : Keeps W (pointer r) :=
  keeps_inRow ⟨keeps_operator _, gives_select ⟨keeps_word _, keeps_word _⟩, hr.written false⟩

theorem Provides.reference : Keeps W (reference r) :=
  keeps_inRow ⟨keeps_operator _, keeps_whenAhead _ keeps_lifetime, keeps_wordIf _,
    hr.written false⟩

theorem Provides.dynamic (plus : Bool) : Keeps W (dynamic r plus) := by
  refine gives_get.andThen fun _ => (keeps_word _).andThen fun _ =>
    (keeps_operatorIf _).andThen fun _ => (hr.objectBounds _ _).andThen fun _ => ?_
  exact gives_ite (keeps_pure _) (keeps_usedSince _)

/-- What is kept as tokens. -/
theorem Provides.other {f : List Token → List Token} {read : Reader (List Token)}
    (h : Keeps W read) : Gives W T (do return .other (f (← read)) : Reader TypeSyntax) :=
  h.andThen fun _ => gives_pure (hr.inherited.other _)

theorem Provides.typeStep (plus : Bool) : Gives W T (typeStep r plus) := by
  have himpl : Gives W T (do
      let sign ← word "impl"
      return .other (sign ++ (← Grammar.objectBounds r ⟨true, true⟩ plus))) :=
    (keeps_word _).andThen fun _ => hr.other (hr.objectBounds _ plus)
  refine hr.binder.andThen fun bound => gives_get.andThen fun _ => gives_get.andThen fun _ =>
    gives_ite gives_failure_bind ?_
  exact gives_select_tested ⟨(hr.parenthesized plus).tested, (hr.other hr.functionType).tested,
    (hr.other keeps_builtin).tested, hr.pathType plus bound, (hr.other (hr.dynamic plus)).tested,
    (hr.other (keeps_bracketed r)).tested, (hr.other hr.pointer).tested,
    (hr.other hr.reference).tested, (hr.other (keeps_operator _)).tested, himpl.tested,
    (hr.other (keeps_word _)).tested, (hr.other (hr.objectBounds _ true)).tested⟩

end

/-- At each depth the readers give what has inherited properties. -/
theorem provides_nested (h : Inherited W T S) (depth : Nat) : Provides W T S (nested depth) := by
  induction depth with
  -- at no depth at all nothing can be read
  | zero => exact ⟨h, fun _ => gives_failure, fun _ => gives_failure⟩
  | succ depth ih => exact ⟨h, ih.typeStep, ih.boundStep⟩

/-- What a reader gives, a whole text gives that is cut into words. -/
theorem of_readAll? {α : Type} {P : α → Prop} {read : Nested → Reader α} {s : String} {a : α}
    (hread : ∀ depth, Gives IsLexed P (read (nested depth))) (h : readAll? read s = some a) :
    P a := by
  obtain ⟨ts, hts, hwhole⟩ := Option.bind_eq_some_iff.mp h
  rw [whole?] at hwhole
  split at hwhole
  · next hall =>
    cases hwhole
    exact (hread _ (allLexed_of_tokens? hts) hall).1
  · cases hwhole

end Grammar

theorem of_typeSyntax? (h : Inherited IsLexed T S) {s : String} {t : TypeSyntax}
    (ht : typeSyntax? s = some t) : T t :=
  of_readAll? (fun depth => (provides_nested h depth).type true) ht

theorem of_parameterSyntax? (h : Inherited IsLexed T S) {s name : String}
    {bounds : List BoundSyntax} (hp : parameterSyntax? s = some (name, bounds)) :
    IsLexed name ∧ isIdentifierWord name = true ∧ ∀ b ∈ bounds, BoundOf S b := by
  rw [parameterSyntax?] at hp
  split at hp
  · next attributes name series default hread =>
    cases hp
    have hgives : ∀ depth, Gives IsLexed (TypeParameterOf IsLexed S)
        (namedParameter (nested depth)) := fun depth =>
      (keeps_leading _).andThen fun _ => (provides_nested h depth).typeParameter _
    obtain ⟨hlexed, hname, hbounds⟩ := of_readAll? hgives hread _ _ _ _ rfl
    refine ⟨hlexed, hname, fun b hb => ?_⟩
    obtain ⟨item, hitem, rfl⟩ := List.mem_map.mp hb
    exact hbounds item hitem
  · cases hp

end TypedPrefs.Code
