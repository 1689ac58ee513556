import TypedPrefs.Generated.Group

/-!
# Generated code of a class

The class itself has only functions. What it is bound to, and the groups once they are made, are
held by a static of its own. All items stand in the modules of the class.

`classItems` is the template `root_items` of the generator's module `emit`, and `emit` is its
`emit`.
-/

namespace TypedPrefs.Generated

open Code Code.Token Blueprint

/-- The field of the state that holds a group. -/
def cellField (s : Style) (g : Group) : List Token :=
  name g.cellField ++ code ":" ++ s.library "GroupCell <" ++ name g.typeName ++ code "> ,"

/-- The making of the field of the state that holds a group. -/
def cellInit (s : Style) (g : Group) : List Token :=
  name g.cellField ++ code ":" ++ s.library "GroupCell :: new" ++ inParens [] ++ code ","

/-- The statement that gets the state or fails. -/
def getState (m : Blueprint.Class) : List Token :=
  code "let state =" ++ name m.stateStatic ++ code ". get" ++ inParens [] ++ code "? ;"

/-- The function that gives a group. -/
def groupAccessor (s : Style) (m : Blueprint.Class) (g : Group) : List Token :=
  s.doc
    ("The `" ++ g.name ++ "` preference group\n\nConstructed on first use. Fails with " ++
      "`PrefError::NotInitialized` before `initialize`, or with `PrefError::MissingResource` " ++
      "if a key cannot be resolved.") ++
    s.visibility ++ code "fn" ++ name g.accessor ++ inParens [] ++ code "->" ++
    s.resultOf (code "& 'static" ++ name g.typeName) ++
    inBraces (getState m ++ code "state ." ++ name g.cellField ++ code ". get_or_try_init" ++
      inParens (code "||" ++ name g.typeName ++ code ":: new" ++
        inParens (code ":: std :: sync :: Arc :: clone" ++ inParens (code "& state . store") ++
          code ", & * state . strings")))

/-- The statement that collects the removal of a preference. -/
def removal (s : Style) (p : Preference) : List Token :=
  code "edits . push" ++
    inParens (s.library "Edit :: remove" ++
      inParens (code "group . keys" ++ inParens [] ++ code "." ++ name p.method ++ inParens [])) ++
    code ";"

/-- The statements that collect the removals of a group, if it has preferences. -/
def groupRemovals (s : Style) (g : Group) : List Token :=
  if g.preferences.isEmpty then []
  else
    inBraces (code "let group = Self ::" ++ name g.accessor ++ inParens [] ++ code "? ;" ++
      g.preferences.flatMap (removal s))

/-- The documentation of the function that binds the class. -/
def initializeDoc (m : Blueprint.Class) : String :=
  "Bind the store and the string resources preference keys are resolved from\n\nFails with " ++
    "`PrefError::AlreadyInitialized` on every call after the first." ++
    match m.resources with
    | some t => "\n\nKeys are declared as string resources of `" ++ t.display ++ "`."
    | none => ""

/-- The type of the class and that of its state. -/
def classTypes (s : Style) (m : Blueprint.Class) : List Token :=
  s.doc
    ("Typed accessors for the `" ++ m.qualifiedName ++ "` preferences\n\nCall `" ++ m.className ++
      "::initialize` once before using any group.") ++
    allowUnused ++ s.visibility ++ code "struct" ++ name m.className ++
    inBraces (code "_private :" ++ inParens [] ++ code ",") ++
    allowUnused ++ code "struct" ++ name m.stateType ++
    inBraces (code "store :" ++ s.store ++ code ", strings :" ++ s.strings ++ code "," ++
      m.groups.flatMap (cellField s)) ++
    allowUnused ++ code "static" ++ name m.stateStatic ++ code ":" ++
    s.library "PreferencesCell <" ++ name m.stateType ++ code "> =" ++
    s.library "PreferencesCell :: new" ++ inParens [] ++ code ";"

/-- The function that binds the class. -/
def initializeFunction (s : Style) (m : Blueprint.Class) : List Token :=
  s.doc (initializeDoc m) ++
    s.visibility ++ code "fn initialize" ++
    inParens (code "store :" ++ s.store ++ code ", strings :" ++ s.strings ++ code ",") ++
    code "->" ++ s.resultOf (inParens []) ++
    inBraces (name m.stateStatic ++ code ". initialize" ++
      inParens (name m.stateType ++
        inBraces (code "store , strings ," ++ m.groups.flatMap (cellInit s))))

/-- The function that removes the values of all preferences. -/
def clearFunction (s : Style) (m : Blueprint.Class) : List Token :=
  s.doc
    ("Remove the value of every declared preference in a single batch\n\nFails with " ++
      "`PrefError::NotInitialized` before `initialize`.") ++
    s.visibility ++ code "fn clear" ++ inParens [] ++ code "->" ++ s.resultOf (inParens []) ++
    inBraces (getState m ++ code (if m.preferenceCount = 0 then "let edits" else "let mut edits") ++
      code "= :: std :: vec :: Vec :: new" ++ inParens [] ++ code ";" ++
      m.groups.flatMap (groupRemovals s) ++
      code "state . store . apply" ++ inParens (code "edits") ++ code ";" ++ okOf (inParens []))

/-- The function that gives the store. -/
def storeFunction (s : Style) (m : Blueprint.Class) : List Token :=
  s.doc "The store bound by `initialize`" ++
    s.visibility ++ code "fn underlying_store" ++ inParens [] ++ code "->" ++ s.resultOf s.store ++
    inBraces (okOf (code ":: std :: sync :: Arc :: clone" ++
      inParens (code "&" ++ name m.stateStatic ++ code ". get" ++ inParens [] ++
        code "? . store")))

/-- All items of the class itself. -/
def classItems (s : Style) (m : Blueprint.Class) : List Token :=
  classTypes s m ++ allowUnused ++ code "impl" ++ name m.className ++
    inBraces (initializeFunction s m ++
      s.visibility ++ code "fn is_initialized" ++ inParens [] ++ code "-> bool" ++
      inBraces (name m.stateStatic ++ code ". is_initialized" ++ inParens []) ++
      m.groups.flatMap (groupAccessor s m) ++ clearFunction s m ++ storeFunction s m)

/-- Puts items into modules, of which the first is the outermost. -/
def inModules (s : Style) (items : List Token) : List String → List Token
  | [] => items
  | m :: rest => s.visibility ++ code "mod" ++ name m ++ inBraces (inModules s items rest)

/-- The whole code of a class. -/
def tokens (m : Blueprint.Class) : List Token :=
  let s := Style.ofClass m
  inModules s (classItems s m ++ m.groups.flatMap (groupItems s m.editor)) m.modules

/-- The types that the code of a preference names. -/
def preferenceTypes (p : Preference) : List TypeRef :=
  match p.binding.construction with
  | .none => []
  | .byDefault serializer => [serializer]
  | .fromToken serializer token => [serializer, token]

/-- The names that the code of a preference is given. -/
def preferenceNames (p : Preference) : List String :=
  [p.method, p.serializerField] ++
    (match p.accessors with
      | none => []
      | some a => [a.getter, a.setter, a.editorSetter]) ++
    (preferenceTypes p).flatMap typeNames

/-- The names that the code of a group is given. -/
def groupNames (g : Group) : List String :=
  [g.accessor, g.typeName, keysTypeName g.typeName, editorTypeName g.typeName, g.cellField] ++
    g.preferences.flatMap preferenceNames

/-- All names that the code of a class is given. Each must be an identifier. -/
def names (m : Blueprint.Class) : List String :=
  m.modules ++ [m.className, m.stateType, m.stateStatic] ++ m.groups.flatMap groupNames

/-- The code of a class, or the first of its names that is no identifier: one that is written with
the mark of raw identifiers. -/
def emit (m : Blueprint.Class) : Except String (List Token) :=
  match (names m).find? (!Naming.isIdentifier ·) with
  | some bad => .error bad
  | none => .ok (tokens m)

end TypedPrefs.Generated
