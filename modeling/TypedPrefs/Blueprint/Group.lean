import TypedPrefs.Blueprint.Preference

/-!
# Groups of preferences

A group becomes a type with the methods of its preferences, a type for their keys, and a type for
batches of changes. Preferences whose methods would collide with others are left out.

`group` models `build` of the generator's module `group`, in which `preferencesFrom` is the loop
over the preferences and `TakenMethods` holds its three sets of names. `groupMethods` and
`editorMethods` are `GROUP_METHODS` and `EDITOR_METHODS`.
-/

namespace TypedPrefs.Blueprint

open Declaration Naming

/-- A checked group. -/
structure Group where
  /-- The position in the class. -/
  index : Nat
  name : String
  /-- The function of the class that gives the group. -/
  accessor : String
  typeName : String
  keyPrefix : String
  keySuffix : String
  preferences : List Preference
  deriving Repr, DecidableEq

/-- The type for the keys of a group. -/
def keysTypeName (typeName : String) : String := typeName ++ "Keys"

/-- The type for batches of changes to a group. -/
def editorTypeName (typeName : String) : String := typeName ++ "Editor"

/-- The field of the state that holds the group of an accessor. -/
def cellFieldName (accessor : String) : String := accessor ++ "_group"

namespace Group

/-- The types that the group adds to the module. -/
def itemNames (g : Group) : List String :=
  [g.typeName, keysTypeName g.typeName, editorTypeName g.typeName]

/-- The field of the state that holds the group. -/
def cellField (g : Group) : String := cellFieldName g.accessor

end Group

/-- The methods of a group besides those of its preferences. -/
def groupMethods (editor : Bool) : List String :=
  ["new", "keys"] ++ if editor then ["edit"] else []

/-- The methods of an editor besides those of the preferences. -/
def editorMethods : List String := ["apply", "commit"]

/-- The method names that are taken in a group. -/
structure TakenMethods where
  /-- Those of the type for keys. -/
  keys : List String
  /-- Those of the group. -/
  group : List String
  /-- Those of the editor. -/
  editor : List String
  deriving Repr, DecidableEq

namespace TakenMethods

/-- What is taken before the first preference. -/
def initial (editor : Bool) : TakenMethods := ⟨[], groupMethods editor, editorMethods⟩

/-- Takes a name; the second part holds it if it was taken already. -/
def take (name : String) (taken : List String) : List String × List String :=
  if taken.contains name then (taken, [name]) else (name :: taken, [])

/-- Takes the names of a preference. The second part holds those that were taken already. -/
def add (editor : Bool) (p : Preference) (t : TakenMethods) : TakenMethods × List String :=
  let (keys, c₁) := take p.method t.keys
  match p.accessors with
  | none => ({ t with keys }, c₁)
  | some a =>
    let (group, c₂) := take a.getter t.group
    let (group, c₃) := take a.setter group
    let (editorNames, c₄) := if editor then take a.editorSetter t.editor else (t.editor, [])
    (⟨keys, group, editorNames⟩, c₁ ++ c₂ ++ c₃ ++ c₄)

end TakenMethods

/-- The preferences of a group from the given index on. A name that was declared before, a fault, or
a method that is taken leaves a preference out. -/
def preferencesFrom (c : Context) (group : Nat) (s : GroupSection) :
    Nat → List PreferenceSection → List String → TakenMethods → List Preference × List Diagnostic
  | _, [], _, _ => ([], [])
  | index, p :: rest, names, taken =>
    let location := Location.preference group index p.name
    if names.contains p.name then
      let (ps, ds) := preferencesFrom c group s (index + 1) rest names taken
      (ps, .error location ("Duplicate preference name: " ++ p.name) :: ds)
    else
      let names := p.name :: names
      match preference c group s.keyPrefix s.keySuffix index p with
      | (none, reported) =>
        let (ps, ds) := preferencesFrom c group s (index + 1) rest names taken
        (ps, reported ++ ds)
      | (some checked, reported) =>
        let (taken, collisions) := taken.add c.editor checked
        let (ps, ds) := preferencesFrom c group s (index + 1) rest names taken
        if collisions.isEmpty then (checked :: ps, reported ++ ds)
        else
          (ps, reported ++ collisions.map (fun name =>
            .error location
              ("Preference " ++ p.name ++ " generates accessor " ++ name ++
                " which already exists in group " ++ s.name)) ++ ds)

/-- Why a group cannot be generated. -/
inductive GroupFault where
  | illegalName (name : String)
  | illegalPrefix (text : String)
  | illegalSuffix (text : String)
  deriving Repr, DecidableEq

/-- The wording of a fault. -/
def GroupFault.message : GroupFault → String
  | .illegalName name => "Illegal preference group name: " ++ name
  | .illegalPrefix text => "Illegal preference group prefix: " ++ text
  | .illegalSuffix text => "Illegal preference group suffix: " ++ text

/-- What is wrong with the names of a group. -/
def groupFault? (s : GroupSection) : Option GroupFault :=
  let typeName := pascalCase s.name
  let generated := [snakeCase s.name, typeName, keysTypeName typeName, editorTypeName typeName]
  if !isIdentifier s.name || isReservedWord s.name || !generated.all isUsable then
    some (.illegalName s.name)
  else if !s.keyPrefix.isEmpty && !isIdentifier s.keyPrefix then some (.illegalPrefix s.keyPrefix)
  else if !isIdentifierSuffix s.keySuffix then some (.illegalSuffix s.keySuffix)
  else none

/-- The group at an index of the class, if its names are right, and what is reported about it. -/
def group (c : Context) (index : Nat) (s : GroupSection) : Option Group × List Diagnostic :=
  let location := Location.group index s.name
  match groupFault? s with
  | some fault => (none, [.error location fault.message])
  | none =>
    let warnings :=
      if s.preferences.isEmpty then
        [.warning location ("Preference group " ++ s.name ++ " declares no preferences")]
      else []
    let (preferences, reported) :=
      preferencesFrom c index s 0 s.preferences [] (.initial c.editor)
    (some
      { index, name := s.name, accessor := snakeCase s.name, typeName := pascalCase s.name
        keyPrefix := s.keyPrefix, keySuffix := s.keySuffix, preferences },
      warnings ++ reported)

end TypedPrefs.Blueprint
