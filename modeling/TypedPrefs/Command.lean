import TypedPrefs.Code.Layout
import TypedPrefs.Files.Tree
import TypedPrefs.Generation
import TypedPrefs.Report.Rendering

/-!
# Commands

`check` prints what is wrong with a declaration, `generate` writes the code of its class to a file.
Both fail if there is an error among the diagnostics, and `generate` then writes nothing.

`Command.run` models `run` of the two commands, with `generate_file` of the generator's library. Log
records are left out.
-/

namespace TypedPrefs

open Code

/-- A command with its arguments. -/
inductive Command where
  | check (input : String) (json : Bool)
  | generate (input output : String) (formatted : Bool)
  deriving Repr, DecidableEq

/-- What a command prints, and the code it ends with: zero if all went well. -/
structure Outcome where
  exitCode : Nat
  stdout : String
  stderr : String
  deriving Repr, DecidableEq

namespace Outcome

/-- A cause with its lines indented, the first one after a mark. -/
def indented (mark rest cause : String) : String :=
  mark ++ String.intercalate ("\n" ++ rest) (Text.splitAtChar '\n' cause)

/-- The causes of a failure, from the nearest on, counted if there are several. -/
def causesText : List String → String
  | [] => ""
  | [cause] => "\nCaused by:\n" ++ indented "    " "    " cause ++ "\n"
  | causes =>
    "\nCaused by:\n" ++ String.join (causes.zipIdx.map fun (cause, i) =>
      let number := toString i
      let padding := String.ofList (List.replicate (5 - number.length) ' ')
      indented (padding ++ number ++ ": ") "       " cause ++ "\n")

/-- A failure after some output. -/
def failed (stdout stderr message : String) (causes : List String) : Outcome :=
  ⟨1, stdout, stderr ++ "Error: " ++ message ++ "\n" ++ causesText causes⟩

/-- Success with some output. -/
def succeeded (stdout : String) : Outcome := ⟨0, stdout, ""⟩

end Outcome

namespace Command

section Outcomes

variable [Parsers]

/-- The outcome of checking a declaration that could be read. -/
def checked (input source : String) (json : Bool) (depth : Nat := searchDepth) : Outcome :=
  let ds := TypedPrefs.check source depth
  let report := if json then Report.json ds ++ "\n" else Report.text ds
  if Diagnostic.anyError ds then
    .failed report "" (input ++ " has " ++ toString (Diagnostic.countErrors ds) ++ " error(s)") []
  else .succeeded report

/-- The outcome if no code could be generated. The cause that is named for a name that cannot be
written is a stand-in: the command ends there in a panic. -/
def notGenerated (input output : String) : GenerationFault → Outcome
  | .reported ds =>
    .failed "" (String.join (ds.map fun d => d.display ++ "\n"))
      (input ++ " has " ++ toString (Diagnostic.countErrors ds) ++ " error(s), nothing written") []
  | .unwritableName name =>
    .failed "" "" ("Failed to generate " ++ output)
      ["the name " ++ Text.quote name ++ " cannot be written in code"]

/-- The outcome if something went wrong for a reason that is given by someone else. -/
def failedFor (output fault reason : String) : Outcome :=
  .failed "" "" ("Failed to generate " ++ output) [fault ++ ": " ++ reason, reason]

variable [Formatter]

/-- The text of generated code, all on one line if it is not to be formatted. -/
def codeText (formatted : Bool) (tokens : List Token) : Except String String :=
  if formatted then Formatter.format tokens else .ok (Token.textOf tokens ++ "\n")

/-- Runs a command. -/
def run {m : Type → Type} [Monad m] (files : FileAccess m) (command : Command)
    (depth : Nat := searchDepth) : m Outcome :=
  match command with
  | .check input json => do
    match ← files.read input with
    | .error reason =>
      return .failed "" "" ("Failed to read declaration source: " ++ input) [reason]
    | .ok source => return checked input source json depth
  | .generate input output formatted => do
    match ← files.read input with
    | .error reason => return failedFor output ("failed to read " ++ input) reason
    | .ok source =>
      match TypedPrefs.generate source depth with
      | .error fault => return notGenerated input output fault
      | .ok tokens =>
        match codeText formatted tokens with
        | .error reason =>
          return failedFor output ("generated code is not valid " ++ Formatter.language) reason
        | .ok text =>
          match ← files.write output text with
          | .error reason => return failedFor output ("failed to write " ++ output) reason
          | .ok () => return .succeeded ("Generated " ++ output ++ "\n")

end Outcomes

/-! ## Arguments -/

/-- The options of a command line. -/
structure Flags where
  input : Option String := none
  output : Option String := none
  json : Bool := false
  formatted : Bool := true
  deriving Repr, DecidableEq

/-- Reads options one after the other. -/
def readFlags? (flags : Flags) : List String → Option Flags
  | [] => some flags
  | "--json" :: rest => readFlags? { flags with json := true } rest
  | "--no-format" :: rest => readFlags? { flags with formatted := false } rest
  | option :: value :: rest =>
    if option = "-i" || option = "--input" then readFlags? { flags with input := some value } rest
    else if option = "-o" || option = "--output" then
      readFlags? { flags with output := some value } rest
    else none
  | [_] => none

/-- Reads a command line. -/
def ofArguments? : List String → Option Command
  | [] => none
  | name :: rest => do
    let flags ← readFlags? {} rest
    let input ← flags.input
    match name, flags.output with
    | "check", none => some (.check input flags.json)
    | "generate", some output =>
      if flags.json then none else some (.generate input output flags.formatted)
    | _, _ => none

/-- How to call the program. -/
def usage : String :=
  "usage: typed-prefs check -i <input> [--json]\n" ++
    "       typed-prefs generate -i <input> -o <output> [--no-format]\n"

end Command

end TypedPrefs
