import Mathlib.Data.List.Forall2
import TypedPrefs.Proofs.Code.Identifiers
import TypedPrefs.Proofs.Types.Canonical
import TypedPrefs.Proofs.Types.Display

/-!
# References are read as they are written

The printed form of a reference that was read off a text is cut into the words of its path and the
marks around its arguments, and these tokens are read as the reference again. Both is shown in front
of anything that may follow, so that it holds for arguments and bounds, too.
-/

namespace TypedPrefs

open Code Grammar Naming Text

namespace TypeRef

/-! ## Printed forms as tokens -/

/-- In front of any text that ends words, the printed form of the reference is cut into tokens with
a property. -/
def Spelled (R : List Token → TypeRef → Prop) (t : TypeRef) : Prop :=
  ∀ ⦃cs ts⦄, EndsWord cs → Lexes cs ts →
    ∃ own, Lexes (t.display.toList ++ cs) (own ++ ts) ∧ R own t

/-- The arguments of a reference as they are written. -/
def argumentChars : List TypeRef → List Char
  | [] => []
  | arg :: rest => '<' :: (arg.display.toList ++ ((displayRest rest).toList ++ ['>']))

theorem toList_display (name : String) (args : List TypeRef) :
    (declared name args).display.toList = name.toList ++ argumentChars args := by
  cases args with
  | nil => simp [display, argumentChars]
  | cons arg rest => exact toList_display_declared name arg rest

section

variable {R : List Token → TypeRef → Prop} {sep : List Char} {mark : Token} {cs : List Char}
  {ts : List Token}

theorem endsWord_row (hends : ∀ cs, EndsWord (sep ++ cs)) (as : List TypeRef) (hcs : EndsWord cs) :
    EndsWord (as.flatMap (fun a => sep ++ a.display.toList) ++ cs) := by
  cases as with
  | nil => exact hcs
  | cons a as =>
    rw [List.flatMap_cons, List.append_assoc, List.append_assoc]
    exact hends _

/-- References with the same characters in front of each of them. -/
theorem exists_row (hmark : ∀ {cs ts}, Lexes cs ts → Lexes (sep ++ cs) (mark :: ts))
    (hends : ∀ cs, EndsWord (sep ++ cs)) {as : List TypeRef} (h : ∀ a ∈ as, Spelled R a)
    (hcs : EndsWord cs) (hlexes : Lexes cs ts) :
    ∃ owns, List.Forall₂ R owns as ∧
      Lexes (as.flatMap (fun a => sep ++ a.display.toList) ++ cs)
        (owns.flatMap (mark :: ·) ++ ts) := by
  induction as with
  | nil => exact ⟨[], .nil, hlexes⟩
  | cons a as ih =>
    obtain ⟨ha, has⟩ := List.forall_mem_cons.mp h
    obtain ⟨owns, hR, hrow⟩ := ih has
    obtain ⟨own, hown, hRa⟩ := ha (endsWord_row hends as hcs) hrow
    refine ⟨own :: owns, .cons hRa hR, ?_⟩
    simpa using hmark hown

end

theorem toList_displayRest (as : List TypeRef) :
    (displayRest as).toList = as.flatMap fun a => [',', ' '] ++ a.display.toList := by
  induction as with
  | nil => simp [displayRest]
  | cons a as ih => rw [toList_displayRest_cons, ih]; rfl

/-! ## Paths -/

section

variable {w : String} {ws : List String} {cs : List Char} {ts : List Token}

/-- Words with two colons between them begin like the first word. -/
theorem exists_cons_intercalate (h : IsLexed w) (ws : List String) (cs : List Char) :
    ∃ c rest, [':', ':'].intercalate ((w :: ws).map String.toList) ++ cs = c :: rest ∧
      isNamePart c = true := by
  obtain ⟨c, rest, hchars, hpart⟩ := h.exists_cons
  cases ws with
  | nil => exact ⟨c, rest ++ cs, by simp [hchars], hpart⟩
  | cons v ws => exact ⟨c, _, by simp [hchars, List.intercalate_cons_cons]; rfl, hpart⟩

theorem lexes_intercalate (h : ∀ v ∈ w :: ws, IsLexed v) (hcs : EndsWord cs)
    (hlexes : Lexes cs ts) :
    Lexes ([':', ':'].intercalate ((w :: ws).map String.toList) ++ cs)
      (.word w :: (segmentTokens (bareSegments ws) ++ ts)) := by
  induction ws generalizing w with
  | nil => simpa [bareSegments, segmentTokens] using
      Lexes.word (h w List.mem_cons_self) hcs hlexes
  | cons v ws ih =>
    obtain ⟨hw, hws⟩ := List.forall_mem_cons.mp h
    obtain ⟨c, rest, hchars, hpart⟩ := exists_cons_intercalate (hws v List.mem_cons_self) ws cs
    have hcolons := Lexes.colons (hchars ▸ fun d hd => Option.some.inj hd ▸ hpart) (ih hws)
    rw [segmentTokens_cons, List.map_cons, List.map_cons, List.intercalate_cons_cons]
    simpa using Lexes.word hw (endsWord_of_separator (by decide)) hcolons

/-- The name of a path is cut into the tokens of the path. -/
theorem lexes_pathName (absolute : Bool) (hne : ws ≠ []) (h : ∀ w ∈ ws, IsLexed w)
    (hcs : EndsWord cs) (hlexes : Lexes cs ts) :
    Lexes ((pathName absolute ws).toList ++ cs) ((barePath absolute ws).tokens ++ ts) := by
  obtain ⟨w, ws, rfl⟩ := List.exists_cons_of_ne_nil hne
  obtain ⟨c, rest, hchars, hpart⟩ := exists_cons_intercalate (h w List.mem_cons_self) ws cs
  rw [toList_pathName, tokens_barePath, List.append_assoc]
  cases absolute with
  | false => exact lexes_intercalate h hcs hlexes
  | true =>
    exact Lexes.colons (hchars ▸ fun d hd => Option.some.inj hd ▸ hpart)
      (lexes_intercalate h hcs hlexes)

/-- No text that begins with a path begins with a byte order mark. -/
theorem head?_pathName (absolute : Bool) (hne : ws ≠ []) (h : ∀ w ∈ ws, IsLexed w)
    (cs : List Char) : ((pathName absolute ws).toList ++ cs).head? ≠ some '\ufeff' := by
  obtain ⟨w, ws, rfl⟩ := List.exists_cons_of_ne_nil hne
  obtain ⟨c, rest, hchars, hpart⟩ := exists_cons_intercalate (h w List.mem_cons_self) ws cs
  rw [toList_pathName, List.append_assoc, hchars]
  cases absolute with
  | true => simp
  | false =>
    rintro ⟨⟩
    exact ne_of_foreign hpart (d := '\ufeff') (by decide) rfl

end

theorem name_barePath (absolute : Bool) (ws : List String) :
    (barePath absolute ws).name = pathName absolute ws := by
  have hnames : (bareSegments ws).map SegmentSyntax.name = ws := by
    rw [bareSegments, List.map_map]
    exact List.map_id ws
  exact congrArg (fun names => (if absolute then "::" else "") ++ "::".intercalate names) hnames

/-! ## Tokens as references -/

/-- Readers that go deeper than there are tokens read these as a type that stands for the
reference. -/
def ReadsAs (own : List Token) (t : TypeRef) : Prop :=
  ∀ ⦃depth⦄, own.length < depth → ∀ ⦃rest⦄, EndsAt argumentEnds rest →
    StartsPath (own ++ rest) ∧ ∀ plus, ∃ syn,
      (nested depth).type plus (own ++ rest) = some (syn, rest) ∧ ofSyntax syn = .ok t

/-- They read the tokens as a bound that stands for the reference. -/
def ReadsAsBound (own : List Token) (t : TypeRef) : Prop :=
  ∀ ⦃depth⦄, own.length < depth → ∀ ⦃rest⦄, EndsAt pathEnds rest →
    StartsPath (own ++ rest) ∧ ∀ place, ∃ p,
      (nested depth).bound place (own ++ rest) = some (.type p p.tokens, rest) ∧
        ofPath false p = .ok t

/-- Behind a name they read the tokens as arguments that stand for the references. -/
structure ReadsAsArguments (tail : List Token) (args : List TypeRef) : Prop where
  starts : EndsAt ['<'] tail
  segment : ∀ ⦃depth⦄, tail.length ≤ depth → ∀ ⦃rest⦄, EndsAt pathEnds rest →
    ∀ ⦃w⦄, IsSegmentName w → (args ≠ [] → w ∉ bareWords) →
      ∃ arguments, segment (nested depth) false (.word w :: (tail ++ rest)) =
        some (.mk w arguments, rest) ∧ ofArguments arguments = .ok args

theorem readsAsArguments_nil : ReadsAsArguments [] [] :=
  ⟨endsAt_nil, fun _ _ _ hrest _ hname _ =>
    ⟨.none, segment_of_bare hname (beginsArguments_eq_false hrest), rfl⟩⟩

theorem ofItems_of_forall₂ {items : List (ArgumentSyntax × Bool)} {args : List TypeRef}
    (h : List.Forall₂ (fun item a => ∃ t comma, item.1 = .type t comma ∧ ofSyntax t = .ok a)
      items args) :
    ofItems (items.map fun (x, comma) => x.withComma comma) = .ok args := by
  induction h with
  | nil => rfl
  | @cons item a items args hitem _ ih =>
    obtain ⟨x, comma⟩ := item
    obtain ⟨t, c, rfl, ht⟩ := hitem
    have hfirst : ofItems (.type t comma :: items.map fun (x, comma) => x.withComma comma) =
        .ok (a :: args) := by
      rw [ofItems, ht, ih]
      rfl
    exact hfirst

/-- Tokens that are read as a reference are read as an argument. -/
theorem ReadsAs.argument {own : List Token} {t : TypeRef} (h : ReadsAs own t) {depth : Nat}
    (hdepth : own.length < depth) {rest : List Token} (hrest : EndsAt argumentEnds rest) :
    ∃ x, (∃ syn comma, x = .type syn comma ∧ ofSyntax syn = .ok t) ∧
      begins ['>'] (own ++ rest) = false ∧
      argument (nested depth) (own ++ rest) = some (x, rest) := by
  obtain ⟨hstart, hread⟩ := h hdepth hrest
  obtain ⟨syn, hsyn, hmeans⟩ := hread true
  exact ⟨.type syn false, ⟨syn, false, rfl, hmeans⟩, hstart.begins_eq_false (by decide) _,
    argument_of_type hstart hsyn hrest⟩

/-- Arguments in angle brackets are read one after the other. -/
theorem exists_angleArguments {own : List Token} {owns : List (List Token)} {arg : TypeRef}
    {args : List TypeRef} (h : List.Forall₂ ReadsAs (own :: owns) (arg :: args)) {depth : Nat}
    (hdepth : ∀ o ∈ own :: owns, o.length < depth) (opening closing : Bool) (rest : List Token) :
    ∃ arguments, angleArguments (nested depth) (.mark '<' opening ::
        (own ++ (owns.flatMap (.mark ',' false :: ·) ++ .mark '>' closing :: rest))) =
          some (arguments, rest) ∧
      ofArguments arguments = .ok (arg :: args) := by
  have hread : List.Forall₂ (fun own b => ∀ rest, EndsAt argumentEnds rest → ∃ x,
      (∃ syn comma, x = .type syn comma ∧ ofSyntax syn = .ok b) ∧
        begins ['>'] (own ++ rest) = false ∧
        Grammar.argument (nested depth) (own ++ rest) = some (x, rest))
      (own :: owns) (arg :: args) := by
    refine ((List.forall₂_and_left _ _).mpr ⟨hdepth, h⟩).imp ?_
    intro o b ho rest hrest
    exact ho.2.argument ho.1 hrest
  have hfinish : EndsAt argumentEnds (.mark '>' closing :: rest) := endsAt_mark (by decide) _
  let ts := own ++ (owns.flatMap (.mark ',' false :: ·) ++ .mark '>' closing :: rest)
  have hfuel : owns.length < ts.length + 1 := by
    have hlength := length_le_flatMap_cons (.mark ',' false) owns
    simp only [ts, List.length_append]
    omega
  obtain ⟨items, hitems, hmeans⟩ := separatedWithin_of_forall₂
    (show ',' ∈ argumentEnds by decide) hfinish rfl hread hfuel
  have hargs : ofArguments (.angle false _) = .ok (arg :: args) := ofItems_of_forall₂ hmeans
  have hcolons : operatorIf [':', ':'] (.mark '<' opening :: ts) =
      some ([], .mark '<' opening :: ts) := operatorIf_of_begins (by cases opening <;> rfl)
  have hopening : operator ['<'] (.mark '<' opening :: ts) = some (Token.operator ['<'], ts) := rfl
  have hseparated : separated [','] (begins ['>']) (Grammar.argument (nested depth)) ts =
      some (items, .mark '>' closing :: rest) := hitems
  have hclosing : operator ['>'] (.mark '>' closing :: rest) =
      some (Token.operator ['>'], rest) := rfl
  refine ⟨_, ?_, hargs⟩
  rw [angleArguments, bind_of_eq_some hcolons, bind_of_eq_some hopening,
    bind_of_eq_some hseparated]
  exact bind_of_eq_some hclosing

theorem readsAsArguments_cons {own : List Token} {owns : List (List Token)} {arg : TypeRef}
    {args : List TypeRef} (h : List.Forall₂ ReadsAs (own :: owns) (arg :: args))
    (opening closing : Bool) :
    ReadsAsArguments (.mark '<' opening ::
      (own ++ (owns.flatMap (.mark ',' false :: ·) ++ [.mark '>' closing]))) (arg :: args) := by
  refine ⟨endsAt_mark (by decide) _, fun depth hdepth rest hrest w hname hbare => ?_⟩
  have hlength : ∀ o ∈ own :: owns, o.length < depth := by
    intro o ho
    have hle := length_le_of_mem_row ho (.mark ',' false)
    simp only [List.length_cons, List.length_append] at hdepth hle
    omega
  obtain ⟨arguments, hread, hargs⟩ := exists_angleArguments h hlength opening closing rest
  have hends : EndsAt argumentEnds
      (owns.flatMap (.mark ',' false :: ·) ++ .mark '>' closing :: rest) := by
    cases owns <;> exact endsAt_mark (by decide) _
  have hstart := ((List.forall₂_cons.mp h).1 (hlength own List.mem_cons_self) hends).1
  refine ⟨arguments, ?_, hargs⟩
  have hread' := segment_of_angle hname (hbare (by simp)) (beginsArguments_of_path hstart _) hread
  simpa using hread'

/-- What a path refers to is told by its names. -/
theorem ofName_congr {absolute : Bool} {segments others : List SegmentSyntax}
    (h : segments.map SegmentSyntax.name = others.map SegmentSyntax.name) (allowPrimitive : Bool)
    (args : List TypeRef) :
    ofName allowPrimitive (.mk absolute segments) args =
      ofName allowPrimitive (.mk absolute others) args := by
  have hname : (PathSyntax.mk absolute segments).name = (PathSyntax.mk absolute others).name :=
    congrArg (fun names => (if absolute then "::" else "") ++ "::".intercalate names) h
  have hlength : segments.length = others.length := by simpa using congrArg List.length h
  have hsegments : (PathSyntax.mk absolute segments).segments.length =
      (PathSyntax.mk absolute others).segments.length := hlength
  unfold ofName
  rw [hname, hsegments]
  rfl

/-- Only the last name of the path has arguments. -/
theorem ofPath_withArguments {absolute : Bool} {before : List String} {w : String}
    {arguments : ArgumentsSyntax} {args : List TypeRef} {allowPrimitive : Bool}
    (h : ofArguments arguments = .ok args) :
    ofPath allowPrimitive ((barePath absolute (before ++ [w])).withArguments arguments) =
      .ok (ofName allowPrimitive (barePath absolute (before ++ [w])) args) := by
  have hnone : (bareSegments before).find? segmentHasArguments = none := by
    rw [List.find?_eq_none]
    intro s hs
    obtain ⟨v, -, rfl⟩ := List.mem_map.mp hs
    exact Bool.false_ne_true
  have hnames : (bareSegments before ++ [SegmentSyntax.mk w arguments]).map SegmentSyntax.name =
      (bareSegments (before ++ [w])).map SegmentSyntax.name := by
    simp [bareSegments, SegmentSyntax.name]
  rw [withArguments_barePath, ofPath, List.dropLast_concat, hnone, ofLastSegment_concat]
  dsimp only [SegmentSyntax.arguments]
  rw [h]
  exact congrArg Except.ok (ofName_congr hnames _ _)

/-- A name with arguments is read as a path that stands for it. -/
theorem exists_path (absolute : Bool) {ws : List String} {args : List TypeRef} {tail : List Token}
    (hpath : IsPath ws args) (htail : ReadsAsArguments tail args) {depth : Nat}
    (hdepth : tail.length ≤ depth) {rest : List Token} (hrest : EndsAt pathEnds rest) :
    ∃ p, path (nested depth) false ((barePath absolute ws).tokens ++ (tail ++ rest)) =
        some (p, rest) ∧
      ∀ allowPrimitive, ofPath allowPrimitive p =
        .ok (ofName allowPrimitive (barePath absolute ws) args) := by
  rcases List.eq_nil_or_concat ws with rfl | ⟨before, w, rfl⟩
  · exact absurd rfl hpath.ne_nil
  rw [List.concat_eq_append] at hpath ⊢
  have hnamed : ∀ v ∈ before ++ [w], IsSegmentName v := fun v hv => (hpath.words v hv).named
  obtain ⟨hbefore, hw⟩ := List.forall_mem_append.mp hnamed
  have hbare : args ≠ [] → w ∉ bareWords := fun hne => hpath.last hne w (by simp)
  obtain ⟨arguments, hsegment, hargs⟩ :=
    htail.segment hdepth hrest (hw w List.mem_cons_self) hbare
  exact ⟨_, path_of_segment hbefore hsegment hrest, fun _ => ofPath_withArguments hargs⟩

theorem readsAs_path {absolute : Bool} {ws : List String} {args : List TypeRef} {tail : List Token}
    (hpath : IsPath ws args)
    (hfirst : absolute = false → ∀ w ∈ ws.head?, beginsPath [.word w] = true)
    (htail : ReadsAsArguments tail args) :
    ReadsAs ((barePath absolute ws).tokens ++ tail) (ofName true (barePath absolute ws) args) := by
  intro depth hdepth rest hrest
  obtain _ | depth := depth
  · cases hdepth
  rw [List.append_assoc]
  have hlength : tail.length ≤ depth := by
    rw [List.length_append] at hdepth
    omega
  obtain ⟨p, hread, hmeans⟩ := exists_path absolute hpath htail hlength (hrest.mono (by decide))
  have hstart := startsPath_barePath absolute hpath.ne_nil
    (fun w hw => (hpath.words w hw).named) (tail ++ rest)
  refine ⟨hstart, fun plus => ⟨.path p, ?_, hmeans true⟩⟩
  have hnone : begins ['#'] (tail ++ rest) = false :=
    (htail.starts.append hrest).begins_eq_false (by decide) _
  exact typeStep_of_path hstart (beginsPathType_barePath hpath.ne_nil hfirst _)
    (beginsBuiltin_barePath absolute hpath.ne_nil hnone) hread hrest

theorem readsAsBound_path {absolute : Bool} {ws : List String} {args : List TypeRef}
    {tail : List Token} (hpath : IsPath ws args) (htail : ReadsAsArguments tail args) :
    ReadsAsBound ((barePath absolute ws).tokens ++ tail)
      (.declared (pathName absolute ws) args) := by
  intro depth hdepth rest hrest
  obtain _ | depth := depth
  · cases hdepth
  rw [List.append_assoc]
  have hlength : tail.length ≤ depth := by
    rw [List.length_append] at hdepth
    omega
  obtain ⟨p, hread, hmeans⟩ := exists_path absolute hpath htail hlength hrest
  have hstart := startsPath_barePath absolute hpath.ne_nil
    (fun w hw => (hpath.words w hw).named) (tail ++ rest)
  exact ⟨hstart, fun place =>
    ⟨p, boundStep_of_path hstart hread hrest, name_barePath absolute ws ▸ hmeans false⟩⟩

/-! ## Canonical references -/

theorem exists_arguments {args : List TypeRef} (h : ∀ a ∈ args, Spelled ReadsAs a)
    {cs : List Char} {ts : List Token} (hcs : EndsWord cs) (hlexes : Lexes cs ts) :
    ∃ tail, EndsWord (argumentChars args ++ cs) ∧ Lexes (argumentChars args ++ cs) (tail ++ ts) ∧
      ReadsAsArguments tail args := by
  cases args with
  | nil => exact ⟨[], hcs, hlexes, readsAsArguments_nil⟩
  | cons arg args =>
    obtain ⟨harg, hargs⟩ := List.forall_mem_cons.mp h
    have hcomma : ∀ {cs ts}, Lexes cs ts → Lexes ([',', ' '] ++ cs) (.mark ',' false :: ts) :=
      fun h => h.blank.mark (by decide)
    have hends : ∀ cs, EndsWord ([',', ' '] ++ cs) := fun _ => endsWord_of_separator (by decide)
    obtain ⟨closing, hclosing⟩ : ∃ closing, Lexes ('>' :: cs) (.mark '>' closing :: ts) :=
      ⟨_, Lexes.mark (by decide) hlexes⟩
    have hend : EndsWord ('>' :: cs) := endsWord_of_separator (by decide)
    obtain ⟨owns, hreads, hrow⟩ := exists_row hcomma hends hargs hend hclosing
    obtain ⟨own, hown, hread⟩ := harg (endsWord_row hends args hend) hrow
    obtain ⟨opening, hopening⟩ : ∃ opening, Lexes ('<' :: _) (.mark '<' opening :: _) :=
      ⟨_, Lexes.mark (by decide) hown⟩
    refine ⟨_, endsWord_of_separator (by decide), ?_,
      readsAsArguments_cons (.cons hread hreads) opening closing⟩
    simpa [argumentChars, toList_displayRest] using hopening

theorem spelled_of_path {R : List Token → TypeRef → Prop} (absolute : Bool) {ws : List String}
    {args : List TypeRef} {t : TypeRef} (hpath : IsPath ws args)
    (hargs : ∀ a ∈ args, Spelled ReadsAs a)
    (hdisplay : t.display.toList = (pathName absolute ws).toList ++ argumentChars args)
    (hR : ∀ tail, ReadsAsArguments tail args → R ((barePath absolute ws).tokens ++ tail) t) :
    Spelled R t := by
  intro cs ts hcs hlexes
  obtain ⟨tail, hends, htail, hreads⟩ := exists_arguments hargs hcs hlexes
  refine ⟨_, ?_, hR tail hreads⟩
  rw [hdisplay, List.append_assoc, List.append_assoc]
  exact lexes_pathName absolute hpath.ne_nil (fun w hw => (hpath.words w hw).lexed) hends htail

/-- A single name without arguments is read as what it refers to. -/
theorem spelled_of_name {w : String} {t : TypeRef} (hw : IsSegmentWord w)
    (hfirst : beginsPath [.word w] = true) (hdisplay : t.display = w)
    (hname : ofName true (barePath false [w]) [] = t) : Spelled ReadsAs t := by
  have hpath : IsPath [w] [] := by
    refine ⟨by simp, fun v hv => ?_, fun hne => absurd rfl hne⟩
    exact List.mem_singleton.mp hv ▸ hw
  refine spelled_of_path false hpath nofun ?_ fun tail htail => ?_
  · simp [hdisplay, pathName, argumentChars]
  · refine hname ▸ readsAs_path hpath (fun _ v hv => ?_) htail
    exact Option.some.inj hv ▸ hfirst

/-- The words of a path spell no other type than a declared one. -/
theorem ofName_of_isTypePath {absolute : Bool} {ws : List String} {args : List TypeRef}
    (h : IsTypePath absolute ws args) :
    ofName true (barePath absolute ws) args = .declared (pathName absolute ws) args := by
  rw [ofName, name_barePath]
  split
  · next hbare =>
    have hlength : (barePath absolute ws).segments.length = ws.length := List.length_map _
    rw [hlength] at hbare
    simp only [Bool.true_and, Bool.and_eq_true, List.isEmpty_iff, beq_iff_eq,
      Bool.not_eq_true'] at hbare
    obtain ⟨⟨rfl, hone⟩, rfl⟩ := hbare
    obtain ⟨w, rfl⟩ := List.length_eq_one_iff.mp hone
    obtain ⟨hvoid, hnone⟩ := h.other rfl rfl w rfl
    have hname : pathName false [w] = w := by simp [pathName]
    rw [hname, if_neg hvoid, hnone]
  · rfl

theorem IsCanonical.spelled {t : TypeRef} (h : IsCanonical t) : Spelled ReadsAs t := by
  induction h with
  | primitive kind =>
    have hname : isIdentifier kind.name = true ∧ isIdentifierWord kind.name = true ∧
        kind.name ≠ "void" ∧ PrimitiveKind.ofName? kind.name = some kind := by
      cases kind <;> decide +kernel
    obtain ⟨hidentifier, hword, hvoid, hkind⟩ := hname
    refine spelled_of_name ⟨.plain hidentifier, .inr (.inr hword)⟩ ?_ rfl ?_
    · exact (congrArg (· || _) hword).trans (Bool.true_or _)
    · exact (ofName_single kind.name).trans (by rw [if_neg hvoid, hkind])
  | void =>
    refine spelled_of_name ⟨.plain (by decide +kernel), .inr (.inr (by decide +kernel))⟩ ?_ rfl ?_
    · decide +kernel
    · exact (ofName_single "void").trans (if_pos rfl)
  | @declared absolute ws args hpath _ ih =>
    refine spelled_of_path absolute hpath.toIsPath ih (toList_display _ _) fun tail htail => ?_
    exact ofName_of_isTypePath hpath ▸ readsAs_path hpath.toIsPath hpath.first htail

theorem IsCanonicalBound.spelled {t : TypeRef} (h : IsCanonicalBound t) :
    Spelled ReadsAsBound t := by
  obtain ⟨hpath, hargs⟩ := h
  refine spelled_of_path _ hpath (fun a ha => (hargs a ha).spelled) (toList_display _ _) ?_
  exact fun tail htail => readsAsBound_path hpath htail

end TypeRef

end TypedPrefs
