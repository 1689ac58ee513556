import TypedPrefs.Session.Error
import TypedPrefs.SortedMap

/-!
# String resources

The keys of preferences are texts that are looked up by name. A class takes them from anything that
can do that.

`ResourceStrings` is the trait of this name in the run-time library, and `Resources` stands for
`InMemoryResources` and `IdentityResources`.
-/

namespace TypedPrefs

/-- What a class asks of string resources. -/
class ResourceStrings (R : Type) where
  /-- The text that a name stands for. -/
  getString : R → String → Except PrefError String

/-- Where texts are looked up. -/
inductive Resources where
  /-- Every name stands for itself. -/
  | identity
  /-- The names of a table stand for their texts. -/
  | table (strings : SortedMap String)
  deriving DecidableEq

namespace Resources

/-- The table of some names with their texts. Of several texts of a name the last counts. -/
def ofList (strings : List (String × String)) : Resources := .table (.ofList strings)

/-- The text that a name stands for. -/
def getString (r : Resources) (name : String) : Except PrefError String :=
  match r with
  | .identity => .ok name
  | .table strings =>
    match strings.get? name with
    | some text => .ok text
    | none => .error (.missingResource name)

instance : ResourceStrings Resources := ⟨getString⟩

/-- Adds a name with its text. Where names stand for themselves nothing changes. -/
def put (name text : String) : Resources → Resources
  | .identity => .identity
  | .table strings => .table (strings.put name text)

end Resources

end TypedPrefs
