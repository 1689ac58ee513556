import TypedPrefs.Declaration.Decode
import TypedPrefs.Generated.Class

/-!
# From a declaration to code

`analyze` reads and checks a declaration, `check` only reports what is wrong with it, and `generate`
gives the code of its class if nothing is.

`analyze`, `check` and `generate` are the functions of these names in the generator's library.
-/

namespace TypedPrefs

open Code

/-- How deep walks over supertypes go if nothing else is said. The generator has no such limit: a
walk that meets it here goes on there. What is proved about `analyze`, `check` and `generate` holds
at every depth. -/
def searchDepth : Nat := 20000

/-- The class of a declaration, if its outermost parts are right, and all that is reported. -/
def analyze (source : String) (depth : Nat := searchDepth) :
    Option Blueprint.Class × List Diagnostic :=
  match Declaration.parse source with
  | .error e => (none, [.error .source (Declaration.parseMessage e)])
  | .ok d => Blueprint.build depth d

/-- All that is reported about a declaration. -/
def check (source : String) (depth : Nat := searchDepth) : List Diagnostic :=
  (analyze source depth).2

/-- Why no code is generated. -/
inductive GenerationFault where
  /-- There are errors among the diagnostics. -/
  | reported (diagnostics : List Diagnostic)
  /-- A name in a type cannot be written. The generator panics there and reports nothing. -/
  | unwritableName (name : String)
  deriving Repr, DecidableEq

/-- The wording for diagnostics with errors. -/
def failureMessage (diagnostics : List Diagnostic) : String :=
  "generation failed with " ++ toString (Diagnostic.countErrors diagnostics) ++ " error(s)"

/-- The code of the class of a declaration. -/
def generate (source : String) (depth : Nat := searchDepth) :
    Except GenerationFault (List Token) :=
  match analyze source depth with
  | (some m, diagnostics) =>
    if Diagnostic.anyError diagnostics then .error (.reported diagnostics)
    else (Generated.emit m).mapError .unwritableName
  | (none, diagnostics) => .error (.reported diagnostics)

end TypedPrefs
