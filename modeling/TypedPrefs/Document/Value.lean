import TypedPrefs.Document.Datetime
import TypedPrefs.Number.Binary

/-!
# Values of a document

A document of the TOML format is a table of values. Tables are kept as lists of entries in
increasing order of their keys, each key once.
-/

namespace TypedPrefs.Document

/-- A value of a document. -/
inductive Value where
  | string (s : String)
  /-- An integer of any size; those that do not fit 64 bits cannot be stored. -/
  | integer (i : Int)
  | float (x : Number.Double)
  /-- A finite number beyond all numbers of 64 bits; it cannot be stored. -/
  | hugeFloat
  | boolean (b : Bool)
  | datetime (t : Datetime)
  | array (items : List Value)
  | table (entries : List (String × Value))
  deriving Repr, Inhabited

/-- The name of the sort of a value. -/
def Value.sortName : Value → String
  | .string _ => "string"
  | .integer _ => "integer"
  | .float _ => "float"
  | .hugeFloat => "float"
  | .boolean _ => "boolean"
  | .datetime _ => "datetime"
  | .array _ => "array"
  | .table _ => "table"

end TypedPrefs.Document
