import TypedPrefs.Session.Error

/-!
# Cells

What a class is bound to is set once, and each group is made once, when it is first asked for. Both
live in cells that are empty at first and never change after they are filled.

These are `PreferencesCell` and `GroupCell` of the run-time library.
-/

namespace TypedPrefs

/-- A cell that is filled once. -/
structure PreferencesCell (α : Type) where
  content : Option α
  deriving Repr, DecidableEq

namespace PreferencesCell

variable {α : Type}

/-- The empty cell. -/
def empty : PreferencesCell α := ⟨none⟩

/-- Fills the cell, or fails if it is filled already. -/
def fill (c : PreferencesCell α) (a : α) : Except PrefError Unit × PreferencesCell α :=
  match c.content with
  | none => (.ok (), ⟨some a⟩)
  | some _ => (.error .alreadyInitialized, c)

/-- The content of a cell that is filled. -/
def get (c : PreferencesCell α) : Except PrefError α :=
  match c.content with
  | some a => .ok a
  | none => .error .notInitialized

/-- Whether the cell is filled. -/
def isInitialized (c : PreferencesCell α) : Bool := c.content.isSome

end PreferencesCell

/-- A cell that is filled when it is first needed. -/
structure GroupCell (α : Type) where
  content : Option α
  deriving Repr, DecidableEq

namespace GroupCell

variable {α : Type}

/-- The empty cell. -/
def empty : GroupCell α := ⟨none⟩

/-- The content of the cell. If it is empty it is filled with what is made; if that fails it stays
empty. -/
def getOrTryInit (c : GroupCell α) (made : Except PrefError α) :
    Except PrefError α × GroupCell α :=
  match c.content with
  | some a => (.ok a, c)
  | none =>
    match made with
    | .ok a => (.ok a, ⟨some a⟩)
    | .error e => (.error e, c)

end GroupCell

end TypedPrefs
