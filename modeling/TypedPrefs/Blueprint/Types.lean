import TypedPrefs.Declaration.Section
import TypedPrefs.Report.Diagnostic
import TypedPrefs.Types.Expression
import TypedPrefs.Types.Wellformed

/-!
# The universe of a declaration

The types of a declaration are added to the built-in ones one after the other. A type that cannot be
read, or whose name is taken, is reported and left out; the types after it are still added. What is
wrong between them is found at the end.

`universeOf` models `build_universe`, and `typeDecl` models `type_decl`, of the generator's module
`root`.
-/

namespace TypedPrefs.Blueprint

open Declaration

/-- Why a type of a declaration cannot be added. -/
inductive TypeFailure where
  | illegalName (name : String)
  | type (e : InvalidType)
  | param (e : InvalidTypeParam)
  deriving Repr, DecidableEq

/-- The wording of a failure. -/
def TypeFailure.message : TypeFailure → Message
  | .illegalName name => "Illegal type name: " ++ name
  | .type e => e.message
  | .param e => e.message

/-- Whether a text can name a type: it is the path of a declared type without arguments. -/
def isTypeName (s : String) : Bool :=
  match TypeRef.parse s with
  | .ok (.declared _ []) => true
  | _ => false

/-- The parameters that texts stand for; the first fault counts. -/
def parseParams : List String → Except InvalidTypeParam (List TypeParam)
  | [] => .ok []
  | s :: rest =>
    match TypeParam.parse s with
    | .error e => .error e
    | .ok p => (parseParams rest).map (p :: ·)

/-- The types that texts stand for, where some names are parameters. -/
def parseTypes (params : List String) (texts : List String) : Except InvalidType (List TypeRef) :=
  (TypeRef.parseAll texts).map (List.map (TypeRef.withVariables params))

/-- The constructors that texts stand for, where some names are parameters. -/
def parseConstructors (params : List String) :
    List (List String) → Except InvalidType (List (List TypeRef))
  | [] => .ok []
  | texts :: rest =>
    match parseTypes params texts with
    | .error e => .error e
    | .ok ts => (parseConstructors params rest).map (ts :: ·)

/-- The declaration of a type. -/
def typeDecl (s : TypeSection) : Except TypeFailure TypeDecl := do
  if !isTypeName s.name then throw (.illegalName s.name)
  let params ← (parseParams s.params).mapError .param
  let names := params.map TypeParam.name
  let supertypes ← (parseTypes names s.supertypes).mapError .type
  let constructors ← match s.constructors with
    | some cs => (parseConstructors names cs).mapError .type
    | none => .ok s.kind.constructors
  return { name := s.name, kind := s.kind, params := params.map (TypeParam.withVariables names),
           supertypes, constructors }

/-- Adds types, the first of them at the given index, and reports those that cannot be added. -/
def addTypes : Nat → List TypeSection → Universe → Universe × List Diagnostic
  | _, [], u => (u, [])
  | index, s :: rest, u =>
    let location := Location.type index s.name
    match typeDecl s with
    | .error failure =>
      let (u, ds) := addTypes (index + 1) rest u
      (u, .error location failure.message :: ds)
    | .ok d =>
      match u.declare? d with
      | none =>
        let (u, ds) := addTypes (index + 1) rest u
        (u, .error location (Universe.duplicateMessage d.name) :: ds)
      | some u => addTypes (index + 1) rest u

/-- The position of the last type of a name. -/
def lastIndexOf? (name : String) (types : List TypeSection) : Option Nat :=
  ((types.zipIdx.filter fun (s, _) => s.name == name).getLast?).map Prod.snd

/-- The place of a problem: the last type of that name, or the declaration as a whole. -/
def problemLocation (types : List TypeSection) (p : Universe.Problem) : Location :=
  match lastIndexOf? p.name types with
  | some index => .type index p.name
  | none => .source

/-- The universe of a declaration, and what is wrong with its types. -/
def universeOf (types : List TypeSection) : Universe × List Diagnostic :=
  let (u, ds) := addTypes 0 types Universe.builtin
  (u, ds ++ u.problems.map fun p => .error (problemLocation types p) p.message)

end TypedPrefs.Blueprint
