import TypedPrefs.Proofs.Code.TypeReaders
import TypedPrefs.Proofs.Result
import TypedPrefs.Proofs.Types.Written
import TypedPrefs.Types.Expression

/-!
# References as they are read

What is known of a reference that is read off a text, however it is written there. Its names are
those of paths, made of words that paths can have; a word that takes no arguments has none, and a
name that spells a primitive or `void` stands for it, except in the bounds of a parameter.
-/

namespace TypedPrefs

open Code Grammar

/-- A word that a path can have. -/
structure IsSegmentWord (w : String) : Prop where
  lexed : IsLexed w
  named : IsSegmentName w

namespace TypeRef

/-- Words that make a path, and arguments that the last of them can take. -/
structure IsPath (ws : List String) (args : List TypeRef) : Prop where
  ne_nil : ws ≠ []
  words : ∀ w ∈ ws, IsSegmentWord w
  last : args ≠ [] → ∀ w ∈ ws.getLast?, w ∉ bareWords

/-- A path that makes a type: it begins like one, and it does not spell another one. -/
structure IsTypePath (absolute : Bool) (ws : List String) (args : List TypeRef) : Prop
    extends IsPath ws args where
  first : absolute = false → ∀ w ∈ ws.head?, beginsPath [.word w] = true
  other : absolute = false → args = [] → ∀ w, ws = [w] →
    w ≠ "void" ∧ PrimitiveKind.ofName? w = none

/-- A reference that can be read off a text. -/
inductive IsCanonical : TypeRef → Prop
  | primitive (kind : PrimitiveKind) : IsCanonical (.primitive kind)
  | void : IsCanonical .void
  | declared {absolute : Bool} {ws : List String} {args : List TypeRef} :
      IsTypePath absolute ws args → (∀ a ∈ args, IsCanonical a) →
        IsCanonical (.declared (pathName absolute ws) args)

/-- A reference that can be read off the bound of a parameter. It may look like a primitive. -/
inductive IsCanonicalBound : TypeRef → Prop
  | declared {absolute : Bool} {ws : List String} {args : List TypeRef} :
      IsPath ws args → (∀ a ∈ args, IsCanonical a) →
        IsCanonicalBound (.declared (pathName absolute ws) args)

/-! ## Types as written -/

/-- What the type stands for can be read off a text. -/
def Means (t : TypeSyntax) : Prop := ∀ a, ofSyntax t = .ok a → IsCanonical a

/-- A segment of a path that has been read. -/
structure IsReadSegment (s : SegmentSyntax) : Prop where
  word : IsSegmentWord s.name
  bare : s.arguments ≠ .none → s.name ∉ bareWords
  args : ∀ args, ofArguments s.arguments = .ok args → ∀ a ∈ args, IsCanonical a

theorem ofLastSegment_concat (before : List SegmentSyntax) (s : SegmentSyntax) :
    ofLastSegment (before ++ [s]) = ofArguments s.arguments := by
  induction before with
  | nil =>
    obtain ⟨name, arguments⟩ := s
    rfl
  | cons b before ih =>
    cases before with
    | nil => exact ih
    | cons c before => exact ih

/-- What a path stands for has the words of the path, and arguments that its last word takes. -/
theorem exists_args {p : PathSyntax} {allowPrimitive : Bool} {t : TypeRef}
    (hp : PathOf IsReadSegment p) (h : ofPath allowPrimitive p = .ok t) :
    ∃ args, t = ofName allowPrimitive p args ∧ IsPath (p.segments.map SegmentSyntax.name) args ∧
      ∀ a ∈ args, IsCanonical a := by
  obtain ⟨absolute, segments⟩ := p
  obtain ⟨hne, hsegments⟩ := hp
  rw [ofPath] at h
  split at h
  · cases h
  · obtain ⟨args, hargs, rfl⟩ := map_eq_ok_iff.mp h
    rcases List.eq_nil_or_concat segments with rfl | ⟨before, s, rfl⟩
    · exact absurd rfl hne
    rw [List.concat_eq_append] at hargs hsegments hne ⊢
    have hs : IsReadSegment s := hsegments s (List.mem_append_right _ List.mem_cons_self)
    rw [ofLastSegment_concat] at hargs
    refine ⟨args, rfl, ⟨by simp [PathSyntax.segments], fun w hw => ?_, fun hne w hw => ?_⟩,
      hs.args args hargs⟩
    · obtain ⟨s', hs', rfl⟩ := List.mem_map.mp hw
      exact (hsegments s' hs').word
    · obtain rfl : s.name = w := by simpa [PathSyntax.segments] using hw
      refine hs.bare fun hnone => hne ?_
      rw [hnone] at hargs
      exact (Except.ok.inj hargs).symm

/-- The reference for a path is a primitive or `void` where the path spells one, and else it is a
declared type. -/
theorem ofName_cases (p : PathSyntax) (args : List TypeRef) :
    (∃ kind, ofName true p args = .primitive kind) ∨ ofName true p args = .void ∨
      ofName true p args = .declared p.name args ∧
        (p.absolute = false → args = [] → p.segments.length = 1 →
          p.name ≠ "void" ∧ PrimitiveKind.ofName? p.name = none) := by
  rw [ofName]
  split
  · split
    · exact .inr (.inl rfl)
    · next hvoid =>
      split
      · next kind _ => exact .inl ⟨kind, rfl⟩
      · next hnone => exact .inr (.inr ⟨rfl, fun _ _ _ => ⟨hvoid, hnone⟩⟩)
  · next hother =>
    refine .inr (.inr ⟨rfl, fun habsolute hargs hlength => absurd ?_ hother⟩)
    simp [habsolute, hargs, hlength]

theorem isCanonicalBound {p : PathSyntax} {t : TypeRef} (hp : PathOf IsReadSegment p)
    (h : ofPath false p = .ok t) : IsCanonicalBound t := by
  obtain ⟨args, rfl, hpath, hargs⟩ := exists_args hp h
  exact .declared hpath hargs

theorem isCanonical {p : PathSyntax} {t : TypeRef} (hp : PathOf IsReadSegment p)
    (hfirst : p.absolute = false → ∀ s ∈ p.segments.head?, beginsPath [.word s.name] = true)
    (h : ofPath true p = .ok t) : IsCanonical t := by
  obtain ⟨args, rfl, hpath, hargs⟩ := exists_args hp h
  rcases ofName_cases p args with ⟨kind, hkind⟩ | hvoid | ⟨hdeclared, hother⟩
  · exact hkind ▸ .primitive kind
  · exact hvoid ▸ .void
  · rw [hdeclared]
    show IsCanonical (.declared (pathName p.absolute (p.segments.map SegmentSyntax.name)) args)
    refine .declared ⟨hpath, fun habsolute w hw => ?_, fun habsolute hnil w hw => ?_⟩ hargs
    · obtain ⟨s, hs, rfl⟩ := Option.map_eq_some_iff.mp (List.head?_map ▸ hw)
      exact hfirst habsolute s hs
    · have hname : p.name = w := by simp [PathSyntax.name, habsolute, hw]
      have hlength : p.segments.length = 1 := by simpa using congrArg List.length hw
      exact hname ▸ hother habsolute hnil hlength

/-! ## Reading -/

theorem ofItems_canonical {items : List ArgumentSyntax} (h : ∀ x ∈ items, TypeArgument Means x)
    {args : List TypeRef} (hargs : ofItems items = .ok args) : ∀ a ∈ args, IsCanonical a := by
  induction items generalizing args with
  | nil =>
    cases hargs
    exact nofun
  | cons x rest ih =>
    obtain ⟨hx, hrest⟩ := List.forall_mem_cons.mp h
    cases x with
    | type t comma =>
      rw [ofItems] at hargs
      split at hargs
      · cases hargs
      · next a ha =>
        obtain ⟨more, hmore, rfl⟩ := map_eq_ok_iff.mp hargs
        exact List.forall_mem_cons.mpr ⟨hx t comma rfl a ha, ih hrest hmore⟩
    | _ => cases hargs

/-- Types that stand for canonical references are made of such types. -/
theorem inherited_means : Inherited IsLexed Means IsReadSegment where
  unit := by
    rintro _ ⟨⟩
    exact .void
  paren ht a ha := ht a ha
  lone _ _ := nofun
  other _ := nofun
  path hp hfirst a ha := isCanonical hp hfirst ha
  bare hw hname := by
    refine ⟨⟨hw, hname⟩, fun hnone => absurd rfl hnone, ?_⟩
    rintro _ ⟨⟩
    exact nofun
  angle hw hname hbare hitems := ⟨⟨hw, hname⟩, fun _ => hbare, fun _ => ofItems_canonical hitems⟩

theorem isCanonical_of_parse {s : String} {t : TypeRef} (h : parse s = .ok t) : IsCanonical t := by
  rw [parse] at h
  split at h
  · cases h
  · next syn hsyn => exact of_typeSyntax? inherited_means hsyn t (mapError_eq_ok_iff.mp h)

theorem IsCanonical.isWritten {t : TypeRef} (h : IsCanonical t) : IsWritten t := by
  induction h with
  | primitive kind => exact .primitive kind
  | void => exact .void
  | declared hpath _ ih =>
    exact .declared ⟨_, _, hpath.ne_nil, fun w hw => (hpath.words w hw).lexed.isWord, rfl⟩ ih

/-- The names of a reference that is read off a text are those of paths. -/
theorem isWritten_of_parse {s : String} {t : TypeRef} (h : parse s = .ok t) : IsWritten t :=
  (isCanonical_of_parse h).isWritten

end TypeRef

namespace TypeParam

/-- A parameter that can be read off a text. -/
structure IsCanonical (p : TypeParam) : Prop where
  lexed : IsLexed p.name
  identifier : isIdentifierWord p.name = true
  bounds : ∀ b ∈ p.bounds, TypeRef.IsCanonicalBound b

open TypeRef

/-- The arguments of a function make no reference. -/
theorem ofPath_function_ne_ok {q : PathSyntax} (hq : q.segments ≠ []) {arguments : List Token}
    {allowPrimitive : Bool} {t : TypeRef} :
    ofPath allowPrimitive (q.withArguments (.function arguments)) ≠ .ok t := by
  intro h
  rw [PathSyntax.withArguments, List.getLast?_eq_some_getLast hq] at h
  dsimp only at h
  rw [ofPath] at h
  split at h
  · cases h
  · rw [ofLastSegment_concat] at h
    cases h

theorem ofBounds_canonical {bounds : List BoundSyntax} (h : ∀ b ∈ bounds, BoundOf IsReadSegment b)
    {ts : List TypeRef} (hts : ofBounds bounds = .ok ts) : ∀ t ∈ ts, IsCanonicalBound t := by
  induction bounds generalizing ts with
  | nil =>
    cases hts
    exact nofun
  | cons b rest ih =>
    obtain ⟨hb, hrest⟩ := List.forall_mem_cons.mp h
    cases b with
    | type p tokens =>
      rw [ofBounds] at hts
      split at hts
      · cases hts
      · next t ht =>
        obtain ⟨more, hmore, rfl⟩ := map_eq_ok_iff.mp hts
        refine List.forall_mem_cons.mpr ⟨?_, ih hrest hmore⟩
        rcases hb p tokens rfl with hp | ⟨q, arguments, hq, rfl⟩
        · exact isCanonicalBound hp ht
        · exact absurd ht (ofPath_function_ne_ok hq.ne_nil)
    | _ => cases hts

theorem isCanonical_of_parse {s : String} {p : TypeParam} (h : parse s = .ok p) :
    IsCanonical p := by
  rw [parse] at h
  split at h
  · cases h
  · next name bounds hread =>
    obtain ⟨hlexed, hname, hbounds⟩ := of_parameterSyntax? inherited_means hread
    split at h
    · cases h
    · next ts hts =>
      cases h
      exact ⟨hlexed, hname, ofBounds_canonical hbounds hts⟩

end TypeParam

end TypedPrefs
