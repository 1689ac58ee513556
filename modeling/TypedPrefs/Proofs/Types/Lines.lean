import TypedPrefs.Proofs.Text.Lines
import TypedPrefs.Proofs.Types.Canonical
import TypedPrefs.Proofs.Types.Display
import TypedPrefs.Proofs.Types.Fitting
import TypedPrefs.Proofs.Types.Walks

/-!
# References on one line

A reference is unbroken if no name in it has a line feed; it is then shown on one line. References
that are read off a text are unbroken, even if the text has line feeds between the words. Where the
names of all declarations are on one line, everything that an unbroken reference leads to is
unbroken, too.
-/

namespace TypedPrefs

open Text Code

/-! ## Words and paths -/

theorem Naming.isOneLine_of_isIdentifier {s : String} (h : isIdentifier s = true) : IsOneLine s :=
  not_mem_of_isIdentifier h (by decide)

theorem Code.IsWord.isOneLine {s : String} (h : IsWord s) : IsOneLine s := by
  rcases h with h | ⟨name, hname, rfl⟩
  · exact Naming.isOneLine_of_isIdentifier h
  · have hplain := Naming.isOneLine_of_isIdentifier hname
    simp +decide [hplain]

theorem lineFeed_not_mem_intercalate {pieces : List (List Char)} (h : ∀ p ∈ pieces, '\n' ∉ p) :
    '\n' ∉ [':', ':'].intercalate pieces := by
  induction pieces with
  | nil => simp
  | cons p rest ih =>
    obtain ⟨hp, hrest⟩ := List.forall_mem_cons.mp h
    cases rest with
    | nil => simpa using hp
    | cons q rest =>
      rw [List.intercalate_cons_cons]
      simp [hp, ih hrest]

theorem IsPathName.isOneLine {name : String} (h : IsPathName name) : IsOneLine name := by
  obtain ⟨absolute, ws, -, hws, rfl⟩ := h
  have hwords : ∀ p ∈ ws.map String.toList, '\n' ∉ p := by
    intro p hp
    obtain ⟨w, hw, rfl⟩ := List.mem_map.mp hp
    exact (hws w hw).isOneLine
  rw [IsOneLine, toList_pathName]
  cases absolute <;> simp [lineFeed_not_mem_intercalate hwords]

/-! ## References -/

namespace TypeRef

/-- No name in the reference has a line feed. -/
def IsUnbroken (t : TypeRef) : Prop := ∀ p ∈ t.parts, IsOneLine p.headName

instance (t : TypeRef) : Decidable t.IsUnbroken :=
  inferInstanceAs (Decidable (∀ p ∈ t.parts, IsOneLine p.headName))

@[simp] theorem isUnbroken_primitive (kind : PrimitiveKind) : (primitive kind).IsUnbroken := by
  cases kind <;> decide

@[simp] theorem isUnbroken_void : void.IsUnbroken := by
  decide

@[simp] theorem isUnbroken_variable {x : String} :
    (TypeRef.variable x).IsUnbroken ↔ IsOneLine x := by
  simp [IsUnbroken, parts, headName]

@[simp] theorem isUnbroken_declared {name : String} {args : List TypeRef} :
    (declared name args).IsUnbroken ↔ IsOneLine name ∧ ∀ a ∈ args, a.IsUnbroken := by
  constructor
  · intro h
    refine ⟨h _ (self_mem_parts _), fun a ha p hp => ?_⟩
    exact h p (mem_parts_trans hp (mem_parts_of_mem_args ha))
  · rintro ⟨hname, hargs⟩ p hp
    rcases List.mem_cons.mp (parts_eq _ ▸ hp) with rfl | hp
    · exact hname
    · obtain ⟨a, ha, hp⟩ := mem_innerParts_declared.mp hp
      exact hargs a ha p hp

theorem isUnbroken_boxed {t : TypeRef} (h : t.IsUnbroken) : t.boxed.IsUnbroken := by
  cases t with
  | primitive kind => cases kind <;> decide
  | _ => exact h

theorem isUnbroken_unboxed {t : TypeRef} (h : t.IsUnbroken) : t.unboxed.IsUnbroken := by
  rw [unboxed.eq_def]
  split
  · split
    · simp
    · exact h
  · exact h

theorem isUnbroken_withVariables {t : TypeRef} (h : t.IsUnbroken) (params : List String) :
    (t.withVariables params).IsUnbroken := by
  induction t with
  | primitive kind => exact h
  | void => exact h
  | parameter x => exact h
  | declared name args ih =>
    obtain ⟨hname, hargs⟩ := isUnbroken_declared.mp h
    rw [withVariables]
    split
    · exact isUnbroken_variable.mpr hname
    · rw [withVariablesList_eq_map, isUnbroken_declared]
      exact ⟨hname, List.forall_mem_map.mpr fun a ha => ih a ha (hargs a ha)⟩

theorem isUnbroken_substitute {t : TypeRef} (h : t.IsUnbroken) {args : List TypeRef}
    (hargs : ∀ a ∈ args, a.IsUnbroken) (params : List String) :
    (t.substitute params args).IsUnbroken := by
  rw [substitute]
  induction t with
  | primitive kind => exact h
  | void => exact h
  | parameter x =>
    rw [instantiate]
    cases hx : (params.zip args).lookup x with
    | none => exact h
    | some a =>
      obtain ⟨before, after, heq, -⟩ := List.lookup_eq_some_iff.mp hx
      have hmem : (x, a) ∈ params.zip args := by simp [heq]
      exact hargs a (List.of_mem_zip hmem).2
  | declared name inner ih =>
    obtain ⟨hname, hinner⟩ := isUnbroken_declared.mp h
    rw [instantiate_declared, isUnbroken_declared]
    exact ⟨hname, List.forall_mem_map.mpr fun a ha => ih a ha (hinner a ha)⟩

theorem isOneLine_displayRest {ts : List TypeRef} (h : ∀ t ∈ ts, IsOneLine t.display) :
    IsOneLine (displayRest ts) := by
  induction ts with
  | nil => decide
  | cons t ts ih =>
    obtain ⟨ht, hts⟩ := List.forall_mem_cons.mp h
    simp +decide [displayRest, ht, ih hts]

/-- An unbroken reference is shown on one line. -/
theorem isOneLine_display {t : TypeRef} (h : t.IsUnbroken) : IsOneLine t.display := by
  induction t with
  | declared name args ih =>
    obtain ⟨hname, hargs⟩ := isUnbroken_declared.mp h
    have hdisplay : ∀ a ∈ args, IsOneLine a.display := fun a ha => ih a ha (hargs a ha)
    cases args with
    | nil => exact hname
    | cons arg rest =>
      obtain ⟨harg, hrest⟩ := List.forall_mem_cons.mp hdisplay
      simp +decide [display, hname, harg, isOneLine_displayRest hrest]
  | _ =>
    rw [display_of_args_eq_nil rfl]
    exact h _ (self_mem_parts _)

/-- What is read off a text is unbroken. -/
theorem IsWritten.isUnbroken {t : TypeRef} (h : IsWritten t) : t.IsUnbroken := by
  induction h with
  | primitive kind => simp
  | void => simp
  | declared hname _ ih => exact isUnbroken_declared.mpr ⟨hname.isOneLine, ih⟩

theorem IsPath.isOneLine {ws : List String} {args : List TypeRef} (h : IsPath ws args)
    (absolute : Bool) : IsOneLine (pathName absolute ws) :=
  IsPathName.isOneLine
    ⟨absolute, ws, h.ne_nil, fun w hw => (h.words w hw).lexed.isWord, rfl⟩

theorem IsCanonicalBound.isUnbroken {t : TypeRef} (h : IsCanonicalBound t) : t.IsUnbroken := by
  cases h with
  | declared hpath hargs =>
    rw [isUnbroken_declared]
    exact ⟨hpath.isOneLine _, fun a ha => (hargs a ha).isWritten.isUnbroken⟩

end TypeRef

/-! ## Declarations -/

/-- The names of a declaration, of its parameters, and in the references that it is made of have no
line feed. -/
structure TypeDecl.IsUnbroken (d : TypeDecl) : Prop where
  name : IsOneLine d.name
  params : ∀ p ∈ d.params, IsOneLine p.name
  references : ∀ t ∈ d.references, t.IsUnbroken

/-- All declarations are unbroken. -/
def Universe.IsUnbroken (u : Universe) : Prop :=
  ∀ name d, u.get? name = some d → d.IsUnbroken

theorem Universe.isUnbroken_builtin : Universe.builtin.IsUnbroken := by
  have hall : ∀ e ∈ Universe.builtin.decls.entries, IsOneLine e.2.name ∧
      (∀ p ∈ e.2.params, IsOneLine p.name) ∧ ∀ t ∈ e.2.references, t.IsUnbroken := by
    decide
  intro name d hd
  obtain ⟨hname, hparams, hreferences⟩ := hall _ (Entries.mem_of_get? hd)
  exact ⟨hname, hparams, hreferences⟩

theorem TypeParam.isOneLine_displayBounds {bs : List TypeRef} (hbs : ∀ b ∈ bs, b.IsUnbroken)
    {separator : String} (hseparator : IsOneLine separator) :
    IsOneLine (displayBounds separator bs) := by
  induction bs generalizing separator with
  | nil => exact (by decide : IsOneLine "")
  | cons b bs ih =>
    obtain ⟨hb, hbs⟩ := List.forall_mem_cons.mp hbs
    have hrest : IsOneLine (displayBounds " + " bs) := ih hbs (by decide)
    simp [displayBounds, hseparator, TypeRef.isOneLine_display hb, hrest]

namespace TypeDecl.IsUnbroken

variable {d : TypeDecl}

theorem isOneLine_display (h : d.IsUnbroken) {p : TypeParam} (hp : p ∈ d.params) :
    IsOneLine p.display := by
  have hbounds : ∀ b ∈ p.bounds, b.IsUnbroken := by
    intro b hb
    refine h.references b ?_
    simp only [TypeDecl.references, List.mem_append, List.mem_flatMap]
    exact .inl (.inr ⟨p, hp, hb⟩)
  rw [TypeParam.display, isOneLine_append]
  exact ⟨h.params p hp, TypeParam.isOneLine_displayBounds hbounds (by decide)⟩

/-- Supertypes are unbroken as they are written, also the one that an enum has without saying
so. -/
theorem allSupertypes (h : d.IsUnbroken) : ∀ t ∈ d.allSupertypes, t.IsUnbroken := by
  have hwritten : ∀ t ∈ d.supertypes, t.IsUnbroken := by
    intro t ht
    refine h.references t ?_
    simp [TypeDecl.references, ht]
  have hself : d.selfType.IsUnbroken := by
    rw [TypeDecl.selfType, TypeRef.isUnbroken_declared]
    refine ⟨h.name, List.forall_mem_map.mpr ?_⟩
    intro x hx
    obtain ⟨p, hp, rfl⟩ := List.mem_map.mp hx
    exact TypeRef.isUnbroken_variable.mpr (h.params p hp)
  rw [TypeDecl.allSupertypes]
  split
  · refine List.forall_mem_append.mpr ⟨hwritten, List.forall_mem_singleton.mpr ?_⟩
    rw [TypeRef.isUnbroken_declared]
    exact ⟨by decide, List.forall_mem_singleton.mpr hself⟩
  · exact hwritten

end TypeDecl.IsUnbroken

namespace Universe.IsUnbroken

variable {u : Universe} {s t : TypeRef}

theorem of_extends (hu : u.IsUnbroken) (ht : t.IsUnbroken) (h : u.Extends t s) :
    s.IsUnbroken := by
  obtain ⟨name, args, d, rfl, hd, p, hp, rfl⟩ := h.exists_supertype
  obtain ⟨-, hargs⟩ := TypeRef.isUnbroken_declared.mp ht
  exact TypeRef.isUnbroken_substitute ((hu name d hd).allSupertypes p hp) hargs _

/-- Whatever an unbroken reference leads to is unbroken. -/
theorem of_reaches (hu : u.IsUnbroken) (ht : t.IsUnbroken) (h : u.Reaches t s) :
    s.IsUnbroken := by
  induction h with
  | refl => exact ht
  | tail _ hstep ih => exact hu.of_extends ih hstep

end Universe.IsUnbroken

/-! ## Misfits -/

theorem Universe.exists_of_misfitAmong? {u : Universe} {ts : List TypeRef} {m : TypeMisfit}
    (h : u.misfitAmong? ts = some m) : ∃ t ∈ ts, u.misfit? t = some m := by
  induction ts with
  | nil => cases h
  | cons t ts ih =>
    rw [misfitAmong?] at h
    split at h
    · next m' hm =>
      cases h
      exact ⟨t, List.mem_cons_self, hm⟩
    · obtain ⟨t', ht', hm⟩ := ih h
      exact ⟨t', List.mem_cons_of_mem _ ht', hm⟩

/-- A misfit in an unbroken reference is told on one line. -/
theorem TypeRef.IsUnbroken.isOneLine_misfit {u : Universe} {t : TypeRef} (ht : t.IsUnbroken)
    {m : TypeMisfit} (h : u.misfit? t = some m) : IsOneLine m.message := by
  induction t with
  | declared name args ih =>
    obtain ⟨hname, hargs⟩ := isUnbroken_declared.mp ht
    rw [Universe.misfit?] at h
    split at h
    · cases h
      unfold TypeMisfit.message
      simp +decide [hname]
    · split at h
      · cases h
        unfold TypeMisfit.message
        simp +decide [hname]
      · obtain ⟨a, ha, hm⟩ := Universe.exists_of_misfitAmong? h
        exact ih a ha (hargs a ha) hm
  | _ => cases h

/-! ## Texts that are no references -/

/-- The parsers refuse a type, a parameter or a path on one line if it is on one line itself. Of
documents nothing is asked. -/
structure Parsers.AreBrief [Parsers] : Prop where
  type {expression : String} (h : IsOneLine expression) : IsOneLine (reason (.type expression))
  parameter {expression : String} (h : IsOneLine expression) :
    IsOneLine (reason (.parameter expression))
  path {text : String} (h : IsOneLine text) : IsOneLine (reason (.path text))

theorem Parsers.areBrief_plain : @Parsers.AreBrief .plain :=
  let _ : Parsers := .plain
  have hline : IsOneLine "<syntax error>" := by decide
  ⟨fun _ => hline, fun _ => hline, fun _ => hline⟩

/-- A message with a reason is on one line if the reason is, or what the parser says for it. -/
theorem Message.isOneLine_because [Parsers] {front : String} {reason : Option String} {r : Refused}
    (hfront : IsOneLine front) (hreason : ∀ text ∈ reason, IsOneLine text)
    (hwords : reason = none → IsOneLine r.words) : IsOneLine (because front reason r).wording := by
  cases reason with
  | none =>
    have hwords := hwords rfl
    simp [because, wording, hfront, hwords]
  | some text =>
    have hreason := hreason text rfl
    simp [because, wording, hfront, hreason]

/-- The fault is told on one line, if it is not left to the parser. -/
def TypeFault.TellsOnOneLine (fault : TypeFault) : Prop :=
  ∀ text ∈ fault.reason?, IsOneLine text

instance (fault : TypeFault) : Decidable fault.TellsOnOneLine :=
  inferInstanceAs (Decidable (∀ text ∈ fault.reason?, IsOneLine text))

theorem TypeFault.tellsOnOneLine_malformed : TellsOnOneLine malformed := by decide

theorem TypeFault.tellsOnOneLine_innerArguments {segment : String} (h : IsOneLine segment) :
    (TypeFault.innerArguments segment).TellsOnOneLine := by
  rintro _ ⟨⟩
  simp +decide [h]

namespace TypeRef

/-- What is wrong with the type is told on one line. -/
def TellsOnOneLine (t : TypeSyntax) : Prop :=
  ∀ fault, ofSyntax t = .error fault → fault.TellsOnOneLine

/-- The name of a segment, and what is wrong with its arguments, are told on one line. -/
structure IsToldSegment (s : SegmentSyntax) : Prop where
  name : IsOneLine s.name
  arguments : ∀ fault, ofArguments s.arguments = .error fault → fault.TellsOnOneLine

theorem isOneLine_of_ofPath {p : PathSyntax} {allowPrimitive : Bool} {fault : TypeFault}
    (hp : PathOf IsToldSegment p) (h : ofPath allowPrimitive p = .error fault) :
    fault.TellsOnOneLine := by
  obtain ⟨absolute, segments⟩ := p
  obtain ⟨hne, hsegments⟩ := hp
  rw [ofPath] at h
  split at h
  · next s hs =>
    cases h
    have hmem : s ∈ segments := List.mem_of_mem_dropLast (List.mem_of_find?_eq_some hs)
    exact TypeFault.tellsOnOneLine_innerArguments (hsegments s hmem).name
  · rw [map_eq_error_iff] at h
    rcases List.eq_nil_or_concat segments with rfl | ⟨before, s, rfl⟩
    · exact absurd rfl hne
    · rw [List.concat_eq_append, ofLastSegment_concat] at h
      exact (hsegments s (by simp [PathSyntax.segments])).arguments fault h

theorem isOneLine_of_ofItems {items : List ArgumentSyntax}
    (hitems : ∀ x ∈ items, TypeArgument TellsOnOneLine x) {fault : TypeFault}
    (h : ofItems items = .error fault) : fault.TellsOnOneLine := by
  induction items with
  | nil => cases h
  | cons x rest ih =>
    obtain ⟨hx, hrest⟩ := List.forall_mem_cons.mp hitems
    cases x with
    | type t comma =>
      rw [ofItems] at h
      split at h
      · next fault' hfault =>
        cases h
        exact hx t comma rfl fault hfault
      · exact ih hrest (map_eq_error_iff.mp h)
    | _ =>
      cases h
      decide

theorem inherited_tellsOnOneLine : Inherited IsLexed TellsOnOneLine IsToldSegment where
  unit := nofun
  paren ht fault hfault := ht fault hfault
  lone _ _ fault hfault := by
    cases hfault
    decide
  other _ fault hfault := by
    cases hfault
    decide
  path hp _ fault hfault := isOneLine_of_ofPath hp hfault
  bare hw _ := ⟨hw.isWord.isOneLine, nofun⟩
  angle hw _ _ hitems := ⟨hw.isWord.isOneLine, fun _ => isOneLine_of_ofItems hitems⟩

/-- Arguments of a function are wrong, too, and told on one line. -/
theorem pathOf_withFunction {q : PathSyntax} (hq : PathOf IsToldSegment q)
    (arguments : List Token) : PathOf IsToldSegment (q.withArguments (.function arguments)) := by
  rw [PathSyntax.withArguments, List.getLast?_eq_some_getLast hq.ne_nil]
  have hlast := hq.segments _ (List.getLast_mem hq.ne_nil)
  refine ⟨by simp [PathSyntax.segments], List.forall_mem_append.mpr ⟨?_, ?_⟩⟩
  · intro s hs
    exact hq.segments s (List.mem_of_mem_dropLast hs)
  · refine List.forall_mem_singleton.mpr ⟨hlast.name, ?_⟩
    rintro _ ⟨⟩
    decide

/-- What is wrong with a text on one line is told on one line. -/
theorem isOneLine_of_parse [Parsers] (hbrief : Parsers.AreBrief) {s : String} (hs : IsOneLine s)
    {e : InvalidType} (h : parse s = .error e) : IsOneLine e.message.wording := by
  have hsource : e.expression = s ∧ e.fault.TellsOnOneLine := by
    rw [parse] at h
    split at h
    · cases h
      exact ⟨rfl, TypeFault.tellsOnOneLine_malformed⟩
    · next t ht =>
      obtain ⟨fault, hfault, rfl⟩ := mapError_eq_error_iff.mp h
      exact ⟨rfl, of_typeSyntax? inherited_tellsOnOneLine ht fault hfault⟩
  obtain ⟨rfl, htells⟩ := hsource
  exact Message.isOneLine_because (by simp +decide [hs]) htells fun _ => hbrief.type hs

end TypeRef

namespace TypeParam

open TypeRef

theorem isOneLine_of_ofBounds {bounds : List BoundSyntax}
    (hbounds : ∀ b ∈ bounds, BoundOf IsToldSegment b) {fault : TypeFault}
    (h : ofBounds bounds = .error fault) : fault.TellsOnOneLine := by
  induction bounds with
  | nil => cases h
  | cons b rest ih =>
    obtain ⟨hb, hrest⟩ := List.forall_mem_cons.mp hbounds
    cases b with
    | type p tokens =>
      rw [ofBounds] at h
      split at h
      · next fault' hfault =>
        cases h
        rcases hb p tokens rfl with hp | ⟨q, arguments, hq, rfl⟩
        · exact isOneLine_of_ofPath hp hfault
        · exact isOneLine_of_ofPath (pathOf_withFunction hq arguments) hfault
      · exact ih hrest (map_eq_error_iff.mp h)
    | _ =>
      cases h
      decide

/-- What is wrong with a text on one line is told on one line. -/
theorem isOneLine_of_parse [Parsers] (hbrief : Parsers.AreBrief) {s : String} (hs : IsOneLine s)
    {e : InvalidTypeParam} (h : parse s = .error e) : IsOneLine e.message.wording := by
  have hsource : e.expression = s ∧ e.fault.TellsOnOneLine := by
    rw [parse] at h
    split at h
    · cases h
      exact ⟨rfl, TypeFault.tellsOnOneLine_malformed⟩
    · next name bounds hread =>
      obtain ⟨-, -, hbounds⟩ := of_parameterSyntax? inherited_tellsOnOneLine hread
      split at h
      · next fault hfault =>
        cases h
        exact ⟨rfl, isOneLine_of_ofBounds hbounds hfault⟩
      · cases h
  obtain ⟨rfl, htells⟩ := hsource
  exact Message.isOneLine_because (by simp +decide [hs]) htells fun _ => hbrief.parameter hs

end TypeParam

end TypedPrefs
