import TypedPrefs.Generated.Types
import TypedPrefs.Proofs.Types.Written

/-!
# Segments of type names

The name of a path falls apart into the words that it was made of. So the names in a type as it is
written in generated code are words, if the type came from a declaration.
-/

namespace TypedPrefs.Generated

open Code

/-! ## Pairs of colons -/

theorem colonPieces_cons {c : Char} (hc : c ≠ ':') {rest piece : List Char}
    {more : List (List Char)} (h : colonPieces rest = piece :: more) :
    colonPieces (c :: rest) = (c :: piece) :: more := by
  rw [colonPieces, h]
  rintro rest' rfl
  exact absurd rfl hc

theorem colonPieces_of_not_mem {s : List Char} (h : ':' ∉ s) : colonPieces s = [s] := by
  induction s with
  | nil => rfl
  | cons c rest ih =>
    obtain ⟨hc, hrest⟩ := not_or.mp (mt List.mem_cons.mpr h)
    exact colonPieces_cons (Ne.symm hc) (ih hrest)

theorem colonPieces_append {s : List Char} (h : ':' ∉ s) (rest : List Char) :
    colonPieces (s ++ ':' :: ':' :: rest) = s :: colonPieces rest := by
  induction s with
  | nil => rfl
  | cons c s ih =>
    obtain ⟨hc, hrest⟩ := not_or.mp (mt List.mem_cons.mpr h)
    exact colonPieces_cons (Ne.symm hc) (ih hrest)

theorem colonPieces_intercalate {pieces : List (List Char)} (hne : pieces ≠ [])
    (h : ∀ p ∈ pieces, ':' ∉ p) : colonPieces ([':', ':'].intercalate pieces) = pieces := by
  induction pieces with
  | nil => exact absurd rfl hne
  | cons p rest ih =>
    obtain ⟨hp, hrest⟩ := List.forall_mem_cons.mp h
    cases rest with
    | nil => simpa using colonPieces_of_not_mem hp
    | cons q more =>
      rw [List.intercalate_cons_cons, List.append_assoc]
      exact (colonPieces_append hp _).trans (congrArg _ (ih (by simp) hrest))

/-! ## Segments -/

/-- The first word of a path does not begin with a colon. -/
theorem not_isPrefixOf_intercalate {ws : List String} (hne : ws ≠ []) (h : ∀ w ∈ ws, IsWord w) :
    [':', ':'].isPrefixOf ([':', ':'].intercalate (ws.map String.toList)) = false := by
  cases ws with
  | nil => exact absurd rfl hne
  | cons w rest =>
    have hw := h w List.mem_cons_self
    cases hchars : w.toList with
    | nil => exact absurd hchars hw.ne_empty
    | cons c more =>
      have hc : (':' == c) = false := by
        have hcolon := hw.not_mem_colon
        rw [hchars] at hcolon
        simpa using (not_or.mp (mt List.mem_cons.mpr hcolon)).1
      cases rest <;> simp [hchars, List.intercalate_cons_cons, List.isPrefixOf, hc]

theorem isAbsolute_pathName {absolute : Bool} {ws : List String} (hne : ws ≠ [])
    (h : ∀ w ∈ ws, IsWord w) : isAbsolute (pathName absolute ws) = absolute := by
  rw [isAbsolute, toList_pathName]
  cases absolute with
  | true => rfl
  | false => exact not_isPrefixOf_intercalate hne h

/-- The segments of the name of a path are its words. -/
theorem pathSegments_pathName {absolute : Bool} {ws : List String} (hne : ws ≠ [])
    (h : ∀ w ∈ ws, IsWord w) : pathSegments (pathName absolute ws) = ws := by
  have hpieces : colonPieces ([':', ':'].intercalate (ws.map String.toList)) =
      ws.map String.toList := by
    refine colonPieces_intercalate (by simpa using hne) fun p hp => ?_
    obtain ⟨w, hw, rfl⟩ := List.mem_map.mp hp
    exact (h w hw).not_mem_colon
  -- the pair of colons in front is no separator: it is dropped before the name is split
  have hrest : (if absolute = true then (pathName absolute ws).toList.drop 2
      else (pathName absolute ws).toList) = [':', ':'].intercalate (ws.map String.toList) := by
    rw [toList_pathName]
    cases absolute <;> rfl
  rw [pathSegments, isAbsolute_pathName hne h, hrest, hpieces, List.map_map]
  simp

theorem isWord_of_mem_pathSegments {name : String} (h : IsPathName name) :
    ∀ w ∈ pathSegments name, IsWord w := by
  obtain ⟨absolute, ws, hne, hws, rfl⟩ := h
  rwa [pathSegments_pathName hne hws]

theorem mem_typeNamesAmong {ts : List TypeRef} {w : String} :
    w ∈ typeNamesAmong ts ↔ ∃ t ∈ ts, w ∈ typeNames t := by
  induction ts with
  | nil => simp [typeNamesAmong]
  | cons t ts ih => simp [typeNamesAmong, ih]

/-- The names in a type are words. -/
theorem isWord_of_mem_typeNames {t : TypeRef} (h : t.IsWritten) :
    ∀ w ∈ typeNames t, IsWord w := by
  induction h with
  | primitive kind => simp [typeNames]
  | void => simp [typeNames]
  | declared hname hargs ih =>
    intro w hw
    rw [typeNames, List.mem_append] at hw
    rcases hw with hw | hw
    · obtain ⟨a, ha, hw⟩ := mem_typeNamesAmong.mp hw
      exact ih a ha w hw
    · split at hw
      · exact isWord_of_mem_pathSegments hname w hw
      · cases hw

end TypedPrefs.Generated
