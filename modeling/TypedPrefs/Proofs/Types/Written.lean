import TypedPrefs.Persist.Binding
import TypedPrefs.Proofs.Code.Words

/-!
# References as declarations write them

A reference that is read off a text has no variables, and its names are those of paths: words with
pairs of colons between them, perhaps behind another pair. The types that serializers are made from
are of this form, too.
-/

namespace TypedPrefs

open Code

/-- The name of a path of some words. -/
def pathName (absolute : Bool) (ws : List String) : String :=
  (if absolute then "::" else "") ++ "::".intercalate ws

theorem toList_pathName (absolute : Bool) (ws : List String) :
    (pathName absolute ws).toList =
      (if absolute then [':', ':'] else []) ++ [':', ':'].intercalate (ws.map String.toList) := by
  cases absolute <;> simp [pathName, String.toList_intercalate]

/-- A name that a path of words spells. -/
def IsPathName (name : String) : Prop :=
  ∃ absolute ws, ws ≠ [] ∧ (∀ w ∈ ws, IsWord w) ∧ name = pathName absolute ws

theorem IsPathName.of_isIdentifier {name : String} (h : Naming.isIdentifier name = true) :
    IsPathName name := by
  refine ⟨false, [name], by simp, fun w hw => ?_, by simp [pathName]⟩
  exact List.mem_singleton.mp hw ▸ .inl h

namespace TypeRef

/-- A reference without variables, all of whose names are those of paths. -/
inductive IsWritten : TypeRef → Prop
  | primitive (kind : PrimitiveKind) : IsWritten (.primitive kind)
  | void : IsWritten .void
  | declared {name : String} {args : List TypeRef} :
      IsPathName name → (∀ a ∈ args, IsWritten a) → IsWritten (.declared name args)

theorem IsWritten.named {name : String} (h : Naming.isIdentifier name = true) :
    IsWritten (named name) :=
  .declared (.of_isIdentifier h) nofun

theorem IsWritten.boxed {t : TypeRef} (h : IsWritten t) : IsWritten t.boxed := by
  cases h with
  | primitive kind => exact .named (by cases kind <;> decide +kernel)
  | void => exact .void
  | declared hname hargs => exact .declared hname hargs

end TypeRef

end TypedPrefs
