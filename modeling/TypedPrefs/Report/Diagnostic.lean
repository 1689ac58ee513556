import TypedPrefs.Report.Message

/-!
# Diagnostics

What is wrong with a declaration, or may be: a severity, the place in the declaration, and a
message. Checking goes on after a diagnostic, so there can be many. What a diagnostic looks like
depends on the words of the parsers.

These are the types of the generator's module `diagnostics`. A `Diagnostics` is a list here.
-/

namespace TypedPrefs

/-- How serious a diagnostic is. Only errors keep the class from being generated. -/
inductive Severity where
  | warning | error
  deriving Repr, DecidableEq

/-- The name of a severity. -/
def Severity.name : Severity → String
  | .warning => "warning"
  | .error => "error"

/-- A place in a declaration. Elements of arrays are counted from zero. -/
inductive Location where
  /-- The declaration as a whole. -/
  | source
  /-- The options of the generator. -/
  | options
  /-- The class of the given name. -/
  | main (name : String)
  | type (index : Nat) (name : String)
  | group (index : Nat) (name : String)
  | preference (group index : Nat) (name : String)
  deriving Repr, DecidableEq

namespace Location

/-- The way to the place through the tables of the document. -/
def path : Location → String
  | .source => ""
  | .options => "generator"
  | .main _ => "preferences"
  | .type index _ => "types[" ++ toString index ++ "]"
  | .group index _ => "preferences.groups[" ++ toString index ++ "]"
  | .preference g index _ =>
    "preferences.groups[" ++ toString g ++ "].preferences[" ++ toString index ++ "]"

/-- The name of what is at the place. -/
def name? : Location → Option String
  | .source => none
  | .options => none
  | .main name => some name
  | .type _ name => some name
  | .group _ name => some name
  | .preference _ _ name => some name

/-- The place as a message shows it. -/
def display (l : Location) : String :=
  if l.path.isEmpty then "<source>"
  else
    match l.name? with
    | some name => l.path ++ " (" ++ name ++ ")"
    | none => l.path

end Location

/-- A report about a place in a declaration. -/
structure Diagnostic where
  severity : Severity
  location : Location
  message : Message
  deriving Repr, DecidableEq

namespace Diagnostic

/-- An error. -/
def error (location : Location) (message : Message) : Diagnostic := ⟨.error, location, message⟩

/-- A warning. -/
def warning (location : Location) (message : Message) : Diagnostic :=
  ⟨.warning, location, message⟩

/-- Whether this is an error. -/
def isError (d : Diagnostic) : Bool := d.severity = .error

/-- The diagnostic as a report as text shows it. -/
def display [Parsers] (d : Diagnostic) : String :=
  d.severity.name ++ ": " ++ d.location.display ++ ": " ++ d.message.wording

/-- Whether the message contains a text. -/
def mentions [Parsers] (needle : String) (d : Diagnostic) : Bool :=
  Text.occursIn needle.toList d.message.wording.toList

/-- The number of errors among diagnostics. -/
def countErrors (ds : List Diagnostic) : Nat := ds.countP isError

/-- Whether there is an error among diagnostics. -/
def anyError (ds : List Diagnostic) : Bool := ds.any isError

end Diagnostic

end TypedPrefs
