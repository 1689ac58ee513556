import TypedPrefs.Blueprint.Group
import TypedPrefs.Code.Grammar

/-!
# The class of a declaration

The whole class that has been checked. All that is wrong with the declaration is reported, so a
class can come along with errors; it is only generated if there are none.

`Blueprint.build` models `build` of the generator's module `root`, in which `groupsFrom` is the loop
over the groups; `mainMethods` is `ROOT_METHODS` and `runtimePath` is `runtime_path`.
-/

namespace TypedPrefs.Blueprint

open Declaration Naming Code

/-- A checked class. -/
structure Class where
  /-- The name as declared, with points between its parts. -/
  qualifiedName : String
  /-- The modules around the class, from the outside in. -/
  modules : List String
  className : String
  /-- The type that holds the key resources, for documentation. -/
  resources : Option TypeRef
  finalized : Bool
  fluent : Bool
  editor : Bool
  emitDocs : Bool
  /-- The path by which the generated code reaches what it needs at run time. -/
  runtime : PathSyntax
  groups : List Group

/-- The type for the state of a class. -/
def stateTypeName (className : String) : String := className ++ "State"

/-- The static that holds the state of a class. -/
def stateStaticName (className : String) : String := upperCase (snakeCase className) ++ "_STATE"

/-- The functions of a class besides those of its groups. -/
def mainMethods : List String := ["initialize", "is_initialized", "clear", "underlying_store"]

namespace Class

/-- The type for the state. -/
def stateType (m : Class) : String := stateTypeName m.className

/-- The static that holds the state. -/
def stateStatic (m : Class) : String := stateStaticName m.className

/-- The number of preferences in all groups. -/
def preferenceCount (m : Class) : Nat := (m.groups.flatMap Group.preferences).length

end Class

/-- The modules and the class that a name spells, if it can name a class: its parts are identifiers
and no reserved words, and the names that are formed from the last part can be used. -/
def className? (name : String) : Option (List String × String) :=
  let segments := Text.splitAtChar '.' name
  match segments.getLast? with
  | none => none
  | some last =>
    if isQualifiedName name && !segments.any isReservedWord &&
        [stateTypeName last, stateStaticName last].all isUsable then
      some (segments.dropLast, last)
    else none

/-- The path to what generated code needs at run time. -/
def runtimePath (o : Options) : Option PathSyntax × List Diagnostic :=
  match pathSyntax? o.runtimePath with
  | some p => (some p, [])
  | none =>
    (none, [.error .options
      ⟨"Illegal runtime crate path " ++ o.runtimePath ++ ": ", some (.path o.runtimePath)⟩])

/-- The type that holds the key resources. -/
def resourcesType (u : Universe) (s : ClassSection) : Option TypeRef × List Diagnostic :=
  match s.resources with
  | none => (none, [])
  | some text =>
    match parseType u text with
    | .ok t => (some t, [])
    | .error fault => (none, [.error (.main s.name) fault.message])

/-- Takes the types of a group. The second part holds those that were taken already. -/
def takeItems : List String → List String → List String × List String
  | taken, [] => (taken, [])
  | taken, name :: rest =>
    if taken.contains name then
      let (taken, clashes) := takeItems taken rest
      (taken, name :: clashes)
    else takeItems (name :: taken) rest

/-- The groups of a class from the given index on. A name that was declared before, a fault, a type
that is taken or a function of the class leaves a group out. -/
def groupsFrom (c : Context) :
    Nat → List GroupSection → List String → List String → List Group × List Diagnostic
  | _, [], _, _ => ([], [])
  | index, s :: rest, names, items =>
    let location := Location.group index s.name
    if names.contains s.name then
      let (gs, ds) := groupsFrom c (index + 1) rest names items
      (gs, .error location ("Duplicate preference group name: " ++ s.name) :: ds)
    else
      let names := s.name :: names
      match group c index s with
      | (none, reported) =>
        let (gs, ds) := groupsFrom c (index + 1) rest names items
        (gs, reported ++ ds)
      | (some g, reported) =>
        let (items, clashes) := takeItems items g.itemNames
        let (gs, ds) := groupsFrom c (index + 1) rest names items
        if !clashes.isEmpty then
          (gs, reported ++ clashes.map (fun item =>
            .error location
              ("Preference group " ++ s.name ++ " generates type " ++ item ++
                " which already exists")) ++ ds)
        else if mainMethods.contains g.accessor then
          (gs, reported ++ [.error location
            ("Preference group " ++ s.name ++ " generates accessor " ++ g.accessor ++
              " which already exists")] ++ ds)
        else (g :: gs, reported ++ ds)

/-- The class of a declaration, if its name and the path to the run-time library are right, and all
that is reported. Walks over supertypes go at most so deep. -/
def build (depth : Nat) (d : Declaration) : Option Class × List Diagnostic :=
  let s := d.main
  let (runtime, pathReports) := runtimePath d.options
  let (types, typeReports) := universeOf d.types
  match className? s.name with
  | none =>
    (none, pathReports ++ typeReports ++
      [.error (.main s.name) ("Illegal preference class name: " ++ s.name)])
  | some (modules, className) =>
    let (resources, resourceReports) := resourcesType types s
    let c : Context := { types, depth, fluent := s.fluent, editor := s.editor }
    let (groups, groupReports) :=
      groupsFrom c 0 s.groups [] [className, stateTypeName className]
    (runtime.map fun runtime =>
      { qualifiedName := s.name, modules, className, resources, finalized := s.finalized
        fluent := s.fluent, editor := s.editor, emitDocs := d.options.emitDocs, runtime, groups },
      pathReports ++ typeReports ++ resourceReports ++ groupReports)

end TypedPrefs.Blueprint
