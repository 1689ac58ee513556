/-!
# Enums persisted by name

The values of an enum are stored as the names of its variants. A variant goes by its own name if no
other is asked for. The implementation is two tables, one for each direction; `derive?` makes them
only if no two variants go by the same name, so that each undoes the other.

The two tables are `name` and `from_name` of a derived `PreferenceEnum`.
-/

namespace TypedPrefs

/-- A variant, and the name it is to be persisted under if not its own. -/
structure EnumVariant where
  name : String
  rename : Option String := none
  deriving Repr, DecidableEq

/-- The name that a variant is persisted under. -/
def EnumVariant.persistedName (v : EnumVariant) : String := v.rename.getD v.name

/-- How an enum is persisted. Of the arms of a table the first one that fits counts. -/
structure EnumImplementation where
  typeName : String
  /-- All variants in the order of their declaration. -/
  variants : List String
  /-- From variants to the names they are persisted under. -/
  nameArms : List (String × String)
  /-- From persisted names to variants. -/
  lookupArms : List (String × String)
  deriving Repr, DecidableEq

namespace EnumImplementation

/-- The name that a variant is persisted under. -/
def name? (e : EnumImplementation) (variant : String) : Option String := e.nameArms.lookup variant

/-- The variant that is persisted under a name. -/
def fromName? (e : EnumImplementation) (name : String) : Option String := e.lookupArms.lookup name

/-- The names among `names` that stand there, or among `seen`, already. -/
def repeated (seen : List String) : List String → List String
  | [] => []
  | n :: rest =>
    if n ∈ seen then n :: repeated (n :: seen) rest else repeated (n :: seen) rest

/-- The implementation for an enum. -/
def ofVariants (typeName : String) (variants : List EnumVariant) : EnumImplementation :=
  { typeName
    variants := variants.map EnumVariant.name
    nameArms := variants.map fun v => (v.name, v.persistedName)
    lookupArms := variants.map fun v => (v.persistedName, v.name) }

/-- The implementation for an enum, or the persisted names that occur once more than they may. -/
def derive (typeName : String) (variants : List EnumVariant) :
    Except (List String) EnumImplementation :=
  match repeated [] (variants.map EnumVariant.persistedName) with
  | [] => .ok (ofVariants typeName variants)
  | names => .error names

end EnumImplementation

end TypedPrefs
