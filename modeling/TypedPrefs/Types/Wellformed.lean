import TypedPrefs.Types.Universe

/-!
# Types that fit the universe

A type fits if every name in it is declared, with as many arguments as parameters or with none. A
declaration that refers to a type that does not fit is reported, and so is one that is its own
supertype.

`misfit?` models `check_type`, `leadsTo?` models `reaches`, `isCyclic` models what `cyclic_types`
asks of each name, and `problems` is `problems` of the generator's module `universe`.
-/

namespace TypedPrefs

/-- Why a type does not fit the universe. -/
inductive TypeMisfit where
  | unknown (name : String)
  | arity (name : String) (expected found : Nat)
  deriving Repr, DecidableEq

/-- The wording of a misfit. -/
def TypeMisfit.message : TypeMisfit → String
  | .unknown name => "Unknown type: " ++ name
  | .arity name expected found =>
    "Wrong number of type arguments for " ++ name ++ ": expected " ++ toString expected ++
      ", found " ++ toString found

namespace Universe

mutual

/-- What is wrong with a type: the first misfit from the outside in. -/
def misfit? (u : Universe) : TypeRef → Option TypeMisfit
  | .declared name args =>
    match u.get? name with
    | none => some (.unknown name)
    | some d =>
      if !args.isEmpty && args.length ≠ d.params.length then
        some (.arity name d.params.length args.length)
      else misfitAmong? u args
  | .primitive _ => none
  | .void => none
  | .variable _ => none

/-- What is wrong with types: the first misfit. -/
def misfitAmong? (u : Universe) : List TypeRef → Option TypeMisfit
  | [] => none
  | t :: rest =>
    match misfit? u t with
    | some m => some m
    | none => misfitAmong? u rest

end

/-- What is wrong with a declaration. -/
inductive ProblemCause where
  | misfit (m : TypeMisfit)
  | cycle
  deriving Repr, DecidableEq

/-- Something that is wrong with the declaration of a name. -/
structure Problem where
  name : String
  cause : ProblemCause
  deriving Repr, DecidableEq

/-- The wording of a problem. -/
def Problem.message (p : Problem) : String :=
  match p.cause with
  | .misfit m => m.message
  | .cycle => "Cyclic inheritance involving " ++ p.name

/-- The misfits in a declaration, in the order of its references. -/
def declProblems (u : Universe) (d : TypeDecl) : List Problem :=
  d.references.filterMap fun t => (u.misfit? t).map fun m => ⟨d.name, .misfit m⟩

/-- The names of the written supertypes of a name. -/
def supertypeNames (u : Universe) (name : String) : List String :=
  match u.get? name with
  | some d => d.supertypes.filterMap TypeRef.declaredName?
  | none => []

/-- What a walk over names has found after some steps: whether it has met the name that it looks
for, and the names entered. The answer `none` means that the limit on its depth was met. -/
abbrev NameTrail := Option (Bool × List String)

/-- Walks from each name of a list until one of them is `target` or leads there. A name is compared
with `target` before it is entered, and no name is entered twice. -/
def firstLeading (target : String) (walk : List String → String → NameTrail) :
    List String → List String → NameTrail
  | entered, [] => some (false, entered)
  | entered, name :: rest =>
    if name = target then some (true, entered)
    else if entered.contains name then firstLeading target walk entered rest
    else
      match walk (name :: entered) name with
      | some (false, entered) => firstLeading target walk entered rest
      | answer => answer

/-- A walk over written supertypes to the name `target`, at most so deep. It goes depth first in the
order of declaration, and from a name that is not declared it goes nowhere. -/
def nameWalk (u : Universe) (target : String) : Nat → List String → String → NameTrail
  | 0, _, _ => none
  | depth + 1, entered, name =>
    firstLeading target (nameWalk u target depth) entered (u.supertypeNames name)

/-- Whether the written supertypes of a name lead to another one, in at least one step. -/
def leadsTo? (u : Universe) (depth : Nat) (name target : String) : Option Bool :=
  (u.nameWalk target depth [] name).map Prod.fst

/-- Whether a declared name is its own supertype by way of the written supertypes. As no name is
entered twice, walks are not deeper than there are declarations, but for the name that they start
from and a last one that is not declared. -/
def isCyclic (u : Universe) (name : String) : Bool :=
  u.leadsTo? (u.decls.size + 2) name name = some true

/-- All problems: the misfits in the order of the declared names, and then the cycles. -/
def problems (u : Universe) : List Problem :=
  u.decls.values.flatMap u.declProblems ++
    (u.decls.keys.filter u.isCyclic).map fun name => ⟨name, .cycle⟩

end Universe

end TypedPrefs
