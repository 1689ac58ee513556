import TypedPrefs.Proofs.Code.TypeReaders

/-!
# Reading paths

The tokens of a path are read as that path again, whatever follows that cannot belong to it. Its
last name may have arguments. As a type or as a bound, a path is what it is by itself.
-/

namespace TypedPrefs.Code

open Grammar

/-- Segments without arguments. -/
def bareSegments (ws : List String) : List SegmentSyntax := ws.map (.mk · .none)

/-- A path of names without arguments. -/
def barePath (absolute : Bool) (ws : List String) : PathSyntax := .mk absolute (bareSegments ws)

instance : DecidablePred IsSegmentName := fun _ => inferInstanceAs (Decidable (_ ∨ _ ∨ _))

/-- Words in front of types, bounds and literals of truth, which no path begins with. -/
def leadingWords : List String :=
  ["for", "fn", "unsafe", "extern", "const", "use", "true", "false"]

theorem not_isSegmentName_of_leading {w : String} (h : w ∈ leadingWords) : ¬ IsSegmentName w := by
  have hall : ∀ v ∈ leadingWords, ¬ IsSegmentName v := by decide +kernel
  exact hall w h

namespace Grammar

open Token

/-- The beginning of a path: two colons or a name. -/
inductive StartsPath : List Token → Prop
  | colons (rest : List Token) : StartsPath (Token.operator [':', ':'] ++ rest)
  | name {w : String} : IsSegmentName w → ∀ rest, StartsPath (.word w :: rest)

/-- The marks in front of which paths end. -/
def pathEnds : List Char := [',', '>', '+']

/-- The marks in front of which arguments end. -/
def argumentEnds : List Char := [',', '>']

variable {r : Nested} {w : String} {ts tail rest : List Token}

/-! ## How paths begin -/

namespace StartsPath

theorem beginsAnyWord_eq_false (h : StartsPath ts) {ws : List String} (hws : ws ⊆ leadingWords) :
    beginsAnyWord ws ts = false := by
  cases h with
  | colons rest => rfl
  | name hname rest =>
    refine Bool.eq_false_iff.mpr fun hmem => ?_
    exact not_isSegmentName_of_leading (hws (List.contains_iff_mem.mp hmem)) hname

theorem isEmpty_eq_false (h : StartsPath ts) : ts.isEmpty = false := by
  cases h <;> rfl

theorem beginsGroup_eq_false (h : StartsPath ts) (d : Delimiter) : beginsGroup d ts = false := by
  cases h <;> rfl

theorem beginsLifetime_eq_false (h : StartsPath ts) : beginsLifetime ts = false := by
  cases h <;> rfl

theorem begins_eq_false (h : StartsPath ts) {c : Char} (hc : c ≠ ':') (op : List Char) :
    begins (c :: op) ts = false := by
  cases h with
  | colons rest => cases op <;> simp [begins, after?, Token.operator, hc]
  | name hname rest => cases op <;> rfl

theorem beginsLiteral_eq_false (h : StartsPath ts) : beginsLiteral ts = false := by
  cases h with
  | colons rest => rfl
  | @name w hname rest =>
    have hne : w ≠ "true" ∧ w ≠ "false" := by
      constructor <;> rintro rfl <;>
        exact not_isSegmentName_of_leading (by simp [leadingWords]) hname
    simp [beginsLiteral, hne]

end StartsPath

theorem beginsArguments_eq_false (h : EndsAt pathEnds rest) :
    beginsArguments false rest = false := by
  have hopening : begins ['<'] rest = false := h.begins_eq_false (by decide) _
  have hcolons : begins [':', ':'] rest = false := h.begins_eq_false (by decide) _
  rw [beginsArguments, hopening, hcolons]
  rfl

theorem beginsArguments_of_path (h : StartsPath ts) (joint : Bool) :
    beginsArguments false (.mark '<' joint :: ts) = true := by
  cases h <;> cases joint <;> rfl

/-! ## Segments -/

/-- Behind its name, a segment goes on with arguments if it takes any. -/
theorem segment_of_named (hname : IsSegmentName w) (hbare : w ∉ bareWords) (ts : List Token) :
    segment r false (.word w :: ts) =
      if beginsArguments false ts then (angleArguments r ts).map fun (x, rest) => (.mk w x, rest)
      else some (.mk w .none, ts) := by
  have hother : ["super", "self", "crate", "try"].contains w = false :=
    Bool.eq_false_iff.mpr fun hmem => hbare (List.contains_iff_mem.mp hmem)
  have hlegal : (w != "Self" && !isIdentifierWord w) = false := by
    rcases hname with hmem | rfl | hword
    · exact absurd hmem hbare
    · rfl
    · rw [hword, Bool.not_true, Bool.and_false]
  simp only [segment, bind_apply, someWord, Option.bind_some, hother, hlegal, Bool.false_eq_true,
    if_false, get_apply]
  split
  · cases h : angleArguments r ts <;> simp [bind_apply, h, pure_apply]
  · rfl

theorem segment_of_bare (hname : IsSegmentName w) (hnone : beginsArguments false rest = false) :
    segment r false (.word w :: rest) = some (.mk w .none, rest) := by
  by_cases hbare : w ∈ bareWords
  · have hmem : ["super", "self", "crate", "try"].contains w = true :=
      List.contains_iff_mem.mpr hbare
    simp only [segment, bind_apply, someWord, Option.bind_some, hmem, if_true]
    rfl
  · rw [segment_of_named hname hbare, if_neg (by rw [hnone]; exact Bool.false_ne_true)]

theorem segment_of_angle (hname : IsSegmentName w) (hbare : w ∉ bareWords)
    (hbegins : beginsArguments false ts = true) {arguments : ArgumentsSyntax}
    (hread : angleArguments r ts = some (arguments, rest)) :
    segment r false (.word w :: ts) = some (.mk w arguments, rest) := by
  rw [segment_of_named hname hbare, if_pos hbegins, hread]
  rfl

/-! ## Paths -/

/-- Whether a further segment follows. -/
def goesOn (ts : List Token) : Bool := begins [':', ':'] ts && !third (beginsGroup .paren) ts

theorem goesOn_name (ts : List Token) :
    goesOn (Token.operator [':', ':'] ++ .word w :: ts) = true := rfl

theorem goesOn_eq_false (h : EndsAt pathEnds rest) : goesOn rest = false := by
  rw [goesOn, h.begins_eq_false (by decide), Bool.false_and]

theorem furtherSegment_append (ts : List Token) :
    furtherSegment r false (Token.operator [':', ':'] ++ ts) = segment r false ts := rfl

theorem beginsArguments_name (ts : List Token) :
    beginsArguments false (Token.operator [':', ':'] ++ .word w :: ts) = false := rfl

/-- The tokens of a segment without arguments, and of those behind it. -/
theorem segmentTokens_cons (ws : List String) (ts : List Token) :
    segmentTokens (bareSegments (w :: ws)) ++ ts =
      Token.operator [':', ':'] ++ .word w :: (segmentTokens (bareSegments ws) ++ ts) := by
  simp [bareSegments, segmentTokens, SegmentSyntax.tokens, ArgumentsSyntax.tokens]

/-- A segment has more than one token. -/
theorem length_le_segmentTokens (ws : List String) (ts : List Token) :
    ws.length ≤ (segmentTokens (bareSegments ws) ++ ts).length := by
  induction ws with
  | nil => exact Nat.zero_le _
  | cons v ws ih =>
    rw [segmentTokens_cons, List.length_append, List.length_cons, List.length_cons]
    omega

/-- A name in front of another one takes no arguments. -/
theorem segment_of_further {v : String} {ws : List String} (hname : IsSegmentName w) :
    segment r false (.word w :: (segmentTokens (bareSegments (v :: ws)) ++ ts)) =
      some (.mk w .none, segmentTokens (bareSegments (v :: ws)) ++ ts) := by
  rw [segmentTokens_cons]
  exact segment_of_bare hname (beginsArguments_name _)

theorem manyWithin_furtherSegment {before : List String} {s : SegmentSyntax}
    (hbefore : ∀ v ∈ before, IsSegmentName v)
    (hlast : segment r false (.word w :: tail) = some (s, rest)) (hrest : EndsAt pathEnds rest)
    {fuel : Nat} (hfuel : before.length + 1 < fuel) :
    manyWithin goesOn (furtherSegment r false) fuel
        (segmentTokens (bareSegments (before ++ [w])) ++ tail) =
      some (bareSegments before ++ [s], rest) := by
  induction before generalizing fuel with
  | nil =>
    obtain _ | _ | fuel := fuel
    iterate 2 simp at hfuel
    rw [List.nil_append, segmentTokens_cons]
    refine manyWithin_of_true (goesOn_name _) ?_ (manyWithin_of_false (goesOn_eq_false hrest) _)
    exact (furtherSegment_append _).trans hlast
  | cons v before ih =>
    obtain _ | fuel := fuel
    · cases hfuel
    obtain ⟨hv, hmore⟩ := List.forall_mem_cons.mp hbefore
    have hread := ih hmore (Nat.lt_of_succ_lt_succ hfuel)
    rw [List.cons_append, segmentTokens_cons]
    refine manyWithin_of_true (goesOn_name _) ?_ hread
    rw [furtherSegment_append]
    cases before <;> exact segment_of_further hv

/-- The tokens of a path, and of what is behind it. -/
theorem tokens_barePath (absolute : Bool) (v : String) (ws : List String) (ts : List Token) :
    (barePath absolute (v :: ws)).tokens ++ ts =
      (if absolute then Token.operator [':', ':'] else []) ++
        .word v :: (segmentTokens (bareSegments ws) ++ ts) := by
  simp [barePath, bareSegments, PathSyntax.tokens, SegmentSyntax.tokens, ArgumentsSyntax.tokens]

theorem path_of_first {absolute : Bool} {v : String} {first : SegmentSyntax}
    {more : List SegmentSyntax} {between : List Token}
    (hfirst : segment r false (.word v :: ts) = some (first, between))
    (hmore : manyWithin goesOn (furtherSegment r false) (between.length + 1) between =
      some (more, rest)) :
    path r false ((if absolute then Token.operator [':', ':'] else []) ++ .word v :: ts) =
      some (.mk absolute (first :: more), rest) := by
  have hmany : many goesOn (furtherSegment r false) between = some (more, rest) := hmore
  cases absolute with
  | true =>
    have hcolons : operatorIf [':', ':'] (Token.operator [':', ':'] ++ .word v :: ts) =
      some (Token.operator [':', ':'], .word v :: ts) := rfl
    rw [if_pos rfl, path, bind_of_eq_some hcolons, bind_of_eq_some hfirst]
    exact bind_of_eq_some hmany
  | false =>
    have hnone : operatorIf [':', ':'] (.word v :: ts) = some ([], .word v :: ts) := rfl
    rw [if_neg Bool.false_ne_true, List.nil_append, path, bind_of_eq_some hnone,
      bind_of_eq_some hfirst]
    exact bind_of_eq_some hmany

theorem startsPath_barePath (absolute : Bool) {ws : List String} (hne : ws ≠ [])
    (hws : ∀ v ∈ ws, IsSegmentName v) (ts : List Token) :
    StartsPath ((barePath absolute ws).tokens ++ ts) := by
  obtain ⟨v, ws, rfl⟩ := List.exists_cons_of_ne_nil hne
  rw [tokens_barePath]
  cases absolute with
  | true => exact .colons _
  | false => exact .name (hws v List.mem_cons_self) _

theorem beginsPathType_barePath {absolute : Bool} {ws : List String} (hne : ws ≠ [])
    (hfirst : absolute = false → ∀ v ∈ ws.head?, beginsPath [.word v] = true) (ts : List Token) :
    beginsPathType ((barePath absolute ws).tokens ++ ts) = true := by
  obtain ⟨v, ws, rfl⟩ := List.exists_cons_of_ne_nil hne
  rw [tokens_barePath]
  cases absolute with
  | true => rfl
  | false =>
    have hhead : beginsPath (.word v :: (segmentTokens (bareSegments ws) ++ ts)) = true :=
      hfirst rfl v rfl
    exact (congrArg (· || _) hhead).trans (Bool.true_or _)

theorem beginsBuiltin_barePath (absolute : Bool) {ws : List String} (hne : ws ≠ [])
    (hnone : begins ['#'] ts = false) :
    beginsBuiltin ((barePath absolute ws).tokens ++ ts) = false := by
  obtain ⟨v, ws, rfl⟩ := List.exists_cons_of_ne_nil hne
  rw [tokens_barePath]
  cases absolute with
  | true => rfl
  | false =>
    have hsign : begins ['#'] (segmentTokens (bareSegments ws) ++ ts) = false := by
      cases ws with
      | nil => exact hnone
      | cons u ws => rw [segmentTokens_cons]; rfl
    exact (congrArg (_ && ·) hsign).trans (Bool.and_false _)

/-- The path whose last name takes arguments. -/
theorem withArguments_barePath (absolute : Bool) (before : List String) (w : String)
    (arguments : ArgumentsSyntax) :
    (barePath absolute (before ++ [w])).withArguments arguments =
      .mk absolute (bareSegments before ++ [.mk w arguments]) := by
  simp [PathSyntax.withArguments, barePath, bareSegments, PathSyntax.segments,
    PathSyntax.absolute, SegmentSyntax.name]

/-- A path is read if its last segment is. -/
theorem path_of_segment {absolute : Bool} {before : List String} {arguments : ArgumentsSyntax}
    (hbefore : ∀ v ∈ before, IsSegmentName v)
    (hlast : segment r false (.word w :: tail) = some (.mk w arguments, rest))
    (hrest : EndsAt pathEnds rest) :
    path r false ((barePath absolute (before ++ [w])).tokens ++ tail) =
      some ((barePath absolute (before ++ [w])).withArguments arguments, rest) := by
  rw [withArguments_barePath]
  cases before with
  | nil =>
    rw [List.nil_append, tokens_barePath]
    exact path_of_first hlast (manyWithin_of_false (goesOn_eq_false hrest) _)
  | cons v before =>
    obtain ⟨hv, hmore⟩ := List.forall_mem_cons.mp hbefore
    rw [List.cons_append, tokens_barePath]
    refine path_of_first ?_ (manyWithin_furtherSegment hmore hlast hrest ?_)
    · cases before <;> exact segment_of_further hv
    · have hlength := length_le_segmentTokens (before ++ [w]) tail
      rw [List.length_append] at hlength
      exact Nat.lt_succ_of_le hlength

/-! ## Types and bounds -/

theorem binder_of_path (hstart : StartsPath ts) : binder r ts = some ([], ts) :=
  whenAhead_of_false (hstart.beginsAnyWord_eq_false (by simp [leadingWords]))

theorem pathType_of_path {plus : Bool} {p : PathSyntax} (hstart : StartsPath ts)
    (hpath : path r false ts = some (p, rest)) (hrest : EndsAt argumentEnds rest) :
    pathType r plus [] ts = some (.path p, rest) := by
  have hqualified : begins ['<'] ts = false := hstart.begins_eq_false (by decide) _
  have hbang : beginsBang rest = false := by
    rw [beginsBang, hrest.begins_eq_false (by decide), Bool.false_and]
  have hfurther : furtherBounds r rest = some ([], rest) :=
    whenAhead_of_false (hrest.begins_eq_false (by decide) _)
  cases plus <;>
    simp only [pathType, ahead, bind_apply, get_apply, pure_apply, Option.bind_some, hqualified,
      Bool.false_eq_true, if_false, hpath, hbang, Bool.and_false, if_true, hfurther,
      List.isEmpty_nil, Bool.and_self]

theorem typeStep_of_path {plus : Bool} {p : PathSyntax} (hstart : StartsPath ts)
    (hbegins : beginsPathType ts = true) (hbuiltin : beginsBuiltin ts = false)
    (hpath : path r false ts = some (p, rest)) (hrest : EndsAt argumentEnds rest) :
    typeStep r plus ts = some (.path p, rest) := by
  have hfunction : beginsAnyWord ["fn", "unsafe", "extern"] ts = false :=
    hstart.beginsAnyWord_eq_false (by simp [leadingWords])
  unfold typeStep
  rw [bind_of_eq_some (binder_of_path hstart), bind_of_eq_some (get_apply _),
    bind_of_eq_some (get_apply _), List.isEmpty_nil, Bool.not_true, Bool.false_and,
    if_neg Bool.false_ne_true]
  dsimp only
  rw [select_cons_of_false (hstart.beginsGroup_eq_false _), select_cons_of_false hfunction,
    select_cons_of_false hbuiltin]
  exact (select_cons_of_true hbegins).trans (pathType_of_path hstart hpath hrest)

theorem boundPath_of_path {p : PathSyntax} (hpath : path r false ts = some (p, rest))
    (hrest : EndsAt pathEnds rest) : boundPath r ts = some (p, rest) := by
  have hnone : beginsFunctionArguments rest = false := by
    rw [beginsFunctionArguments, hrest.beginsGroup_eq_false, hrest.begins_eq_false (by decide)]
    rfl
  rw [boundPath, bind_of_eq_some hpath, bind_of_eq_some (get_apply _), hnone, Bool.and_false,
    if_neg Bool.false_ne_true]
  rfl

theorem constantMark_of_path (hstart : StartsPath ts) (place : BoundPlace) :
    constantMark place ts = some ([], ts) := by
  have hconst : beginsWord "const" ts = false :=
    hstart.beginsAnyWord_eq_false (by simp [leadingWords])
  rw [constantMark, bind_of_eq_some (get_apply _), hstart.beginsGroup_eq_false, hconst,
    Bool.or_false, if_neg Bool.false_ne_true]
  rfl

theorem typeBound_of_path {place : BoundPlace} {p : PathSyntax} (hstart : StartsPath ts)
    (hpath : path r false ts = some (p, rest)) (hrest : EndsAt pathEnds rest) :
    typeBound r place ts = some ((false, p, p.tokens), rest) := by
  have hrelaxed : operatorIf ['?'] ts = some ([], ts) :=
    operatorIf_of_begins (hstart.begins_eq_false (by decide) _)
  rw [typeBound, bind_of_eq_some (binder_of_path hstart),
    bind_of_eq_some (constantMark_of_path hstart place), bind_of_eq_some hrelaxed,
    bind_of_eq_some (get_apply _), List.isEmpty_nil, Bool.not_true, Bool.false_and,
    if_neg Bool.false_ne_true]
  exact bind_of_eq_some (boundPath_of_path hpath hrest)

theorem boundStep_of_path {place : BoundPlace} {p : PathSyntax} (hstart : StartsPath ts)
    (hpath : path r false ts = some (p, rest)) (hrest : EndsAt pathEnds rest) :
    boundStep r place ts = some (.type p p.tokens, rest) := by
  have huse : beginsWord "use" ts = false := hstart.beginsAnyWord_eq_false (by simp [leadingWords])
  simp only [boundStep, ahead, bind_apply, get_apply, pure_apply, Option.bind_some,
    hstart.beginsLifetime_eq_false, huse, Bool.false_eq_true, if_false, namedBound,
    hstart.beginsGroup_eq_false, typeBound_of_path hstart hpath hrest]

/-! ## Arguments -/

theorem argument_of_type {t : TypeSyntax} (hstart : StartsPath ts)
    (htype : r.type true ts = some (t, rest)) (hrest : EndsAt argumentEnds rest) :
    argument r ts = some (.type t false, rest) := by
  have hconstant : beginsConstant ts = false := by
    rw [beginsConstant, hstart.beginsLiteral_eq_false, hstart.beginsGroup_eq_false]
    rfl
  have hnone : beginsAny [['='], [':']] rest = false := by
    rw [beginsAny, List.any_cons, List.any_cons, hrest.begins_eq_false (by decide),
      hrest.begins_eq_false (by decide)]
    rfl
  rw [argument, bind_of_eq_some (get_apply _), hstart.beginsLifetime_eq_false, Bool.false_and,
    if_neg Bool.false_ne_true, hconstant, if_neg Bool.false_ne_true, bind_of_eq_some htype,
    bind_of_eq_some (get_apply _), hnone, Bool.and_false, if_neg Bool.false_ne_true]
  rfl

end Grammar

end TypedPrefs.Code
