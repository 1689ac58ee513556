import TypedPrefs.Proofs.Code.Lexing
import TypedPrefs.Proofs.Code.Paths
import TypedPrefs.Types.Expression

/-!
# Identifiers as types

An identifier makes one word. If it is no reserved word, it is read as a type of that name.
-/

namespace TypedPrefs

open Naming Text

namespace Code

namespace Grammar

variable {s : String}

theorem ne_of_isUsable {w : String} (h : isUsable s = true) (hw : w ∈ reservedWords) : s ≠ w := by
  rintro rfl
  rw [isUsable, isReservedWord, List.contains_iff_mem.mpr hw] at h
  simp at h

theorem isIdentifierWord_of_isUsable (h : isUsable s = true) : isIdentifierWord s = true := by
  have hne : s ∉ reservedWords := fun hmem => ne_of_isUsable h hmem rfl
  simp [isIdentifierWord, keywords, hne]

/-- A single name is a path, and this is a type. -/
theorem typeStep_word (h : isUsable s = true) (r : Nested) :
    typeStep r true [.word s] = some (.path (.mk false [.mk s .none]), []) := by
  have hword := isIdentifierWord_of_isUsable h
  have hname : IsSegmentName s := .inr (.inr hword)
  have hbegins : beginsPathType [.word s] = true := by
    simp [beginsPathType, beginsPath, beginsIdentifier, hword]
  have hbuiltin : beginsBuiltin [.word s] = false := by
    rw [beginsBuiltin, Bool.and_eq_false_iff]
    exact .inr rfl
  have hpath : path r false [.word s] = some (.mk false [.mk s .none], []) :=
    @path_of_first r [] [] false s _ [] [] (segment_of_bare hname rfl) (manyWithin_of_false rfl _)
  exact typeStep_of_path (.name hname _) hbegins hbuiltin hpath endsAt_nil

end Grammar

/-- **An identifier that is no reserved word is a type**, the path of this one name. -/
theorem typeSyntax?_of_isUsable {s : String} (h : isUsable s = true) :
    typeSyntax? s = some (.path (.mk false [.mk s .none])) := by
  have hnested : (Grammar.nestedFor [.word s]).type true [.word s] =
      Grammar.typeStep (Grammar.nested 15) true [.word s] := rfl
  rw [typeSyntax?, Grammar.readAll?, tokens?_of_isIdentifier (isIdentifier_of_isUsable h)]
  simp only [Option.bind_eq_bind, Option.bind_some, Grammar.whole?, hnested,
    Grammar.typeStep_word h]

end Code

namespace TypeRef

/-- What a single name without arguments refers to. -/
theorem ofName_single (s : String) :
    ofName true (.mk false [.mk s .none]) [] =
      if s = "void" then .void else
        match PrimitiveKind.ofName? s with
        | some kind => .primitive kind
        | none => named s := by
  have hname : (Code.PathSyntax.mk false [.mk s .none]).name = s := by
    simp [Code.PathSyntax.name, Code.PathSyntax.absolute, Code.PathSyntax.segments,
      Code.SegmentSyntax.name]
  rw [ofName, hname]
  exact if_pos rfl

/-- An identifier that is no reserved word refers to `void`, to a primitive, or to the declared type
of this name. -/
theorem parse_of_isUsable {s : String} (h : isUsable s = true) :
    parse s = .ok (if s = "void" then .void else
      match PrimitiveKind.ofName? s with
      | some kind => .primitive kind
      | none => named s) := by
  have hread : ofSyntax (.path (.mk false [.mk s .none])) =
      .ok (ofName true (.mk false [.mk s .none]) []) := rfl
  rw [parse, Code.typeSyntax?_of_isUsable h, ← ofName_single]
  dsimp only
  rw [hread]
  rfl

/-- Such an identifier spells itself. -/
theorem eq_of_parse_of_isUsable {s n : String} (h : isUsable s = true)
    (hn : parse s = .ok (named n)) : n = s := by
  rw [parse_of_isUsable h, Except.ok.injEq] at hn
  split at hn
  · cases hn
  · split at hn
    · cases hn
    · exact (declared.inj hn).1.symm

end TypeRef

end TypedPrefs
