import TypedPrefs.Files.Tree
import TypedPrefs.Generation

/-!
# Declarations inside a program

Where a program holds a declaration, or names the file that does, the code of the class takes its
place. If there is none, a compile error for each error in the declaration does.

`ofSource` is `expand_source` of the macros and `ofFile` is `expand_file`, with `resolve_path`;
`compileErrors` is `failure_to_compile_errors` and `errorText` is `diagnostic_message`.
-/

namespace TypedPrefs.Expansion

open Code Code.Token

/-- The code that makes compilation fail with a message. -/
def compileError (message : String) : List Token :=
  code ":: core :: compile_error !" ++ [braces [.string message]]

/-- What a compile error says about a diagnostic. -/
def errorText [Parsers] (d : Diagnostic) : String :=
  d.location.display ++ ": " ++ d.message.wording

/-- The compile errors for the errors among diagnostics. -/
def compileErrors [Parsers] (ds : List Diagnostic) : List Token :=
  (ds.filter Diagnostic.isError).flatMap (compileError <| errorText ·)

/-- What takes the place of a declaration. A fault is a name that cannot be written. -/
def ofSource [Parsers] (source : String) (depth : Nat := searchDepth) :
    Except String (List Token) :=
  match generate source depth with
  | .ok tokens => .ok tokens
  | .error (.reported ds) => .ok (compileErrors ds)
  | .error (.unwritableName name) => .error name

/-- The item that makes the code depend on a file. -/
def dependency (path : String) : List Token :=
  code "const _ : & str = :: core :: include_str !" ++ [parens [.string path]] ++ code ";"

/-- What takes the place of a file with a declaration, seen from a directory. -/
def ofFile [Parsers] {m : Type → Type} [Monad m] (files : FileAccess m) (directory path : String)
    (depth : Nat := searchDepth) : m (Except String (List Token)) := do
  let full := Files.join directory path
  match ← files.read full with
  | .error reason => return .ok (compileError ("failed to read " ++ full ++ ": " ++ reason))
  | .ok source => return (ofSource source depth).map (dependency full ++ ·)

end TypedPrefs.Expansion
