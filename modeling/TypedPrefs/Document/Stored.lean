import TypedPrefs.Document.Value
import TypedPrefs.Number.Integer

/-!
# Values that are stored

A value can be stored if all of its numbers are numbers of 64 bits. A date or a time passes for a
table with a reserved key, so a table whose first key is that one is stored as the date or time that
its text spells, and its other entries do not count.

This is what `toml` does when it hands a document on to be decoded.
-/

namespace TypedPrefs.Document

/-- The key under which a date or time passes for a table. -/
def Datetime.reservedKey : String := "$__toml_private_datetime"

namespace Value

mutual

/-- The value in the form in which it is stored, if it can be. -/
def stored? : Value → Option Value
  | .integer i => if Number.isInt64 i then some (.integer i) else none
  | .hugeFloat => none
  | .array vs => (storedItems? vs).map .array
  | .table entries => storedTable? entries
  | .string s => some (.string s)
  | .float x => some (.float x)
  | .boolean b => some (.boolean b)
  | .datetime t => some (.datetime t)

/-- The elements of an array in the form in which they are stored. -/
def storedItems? : List Value → Option (List Value)
  | [] => some []
  | v :: rest => do some ((← stored? v) :: (← storedItems? rest))

/-- A table in the form in which it is stored. -/
def storedTable? : List (String × Value) → Option Value
  | [] => some (.table [])
  | (key, v) :: rest =>
    if key = Datetime.reservedKey then
      match v with
      | .string s => (Datetime.parse? s.toList).map .datetime
      | _ => none
    else do some (.table ((key, ← stored? v) :: (← storedEntries? rest)))

/-- The entries of a table with their values in the form in which they are stored. -/
def storedEntries? : List (String × Value) → Option (List (String × Value))
  | [] => some []
  | (key, v) :: rest => do some ((key, ← stored? v) :: (← storedEntries? rest))

end

end Value

end TypedPrefs.Document
