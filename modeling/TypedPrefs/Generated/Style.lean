import TypedPrefs.Blueprint.Class
import TypedPrefs.Code.Token

/-!
# Parts of generated code

What all generated items share: visibility, documentation, and names from the run-time library and
the standard library, which are always written with their whole path.

These parts stand in several templates of the generator's module `emit`; `docLine` is `doc`.
-/

namespace TypedPrefs.Generated

open Code Code.Token

/-- How items are written. -/
structure Style where
  /-- The path to the run-time library. -/
  runtime : List Token
  visibility : List Token
  emitDocs : Bool

/-- How the items of a class are written. A class that is not finalized is visible in its crate
only. -/
def Style.ofClass (m : Blueprint.Class) : Style :=
  { runtime := m.runtime.tokens
    visibility := if m.finalized then code "pub" else code "pub" ++ [parens (code "crate")]
    emitDocs := m.emitDocs }

/-- A name as tokens. -/
def name (s : String) : List Token := [.word s]

/-- A group in parentheses as tokens. -/
def inParens (inner : List Token) : List Token := [parens inner]

/-- A group in braces as tokens. -/
def inBraces (inner : List Token) : List Token := [braces inner]

/-- The attribute for items that may stay unused. -/
def allowUnused : List Token :=
  code "#" ++ [brackets (code "allow" ++ inParens (code "dead_code"))]

/-- The attribute for one line of documentation. -/
def docLine (line : String) : List Token :=
  code "#" ++ [brackets (code "doc =" ++ [.string (if line.isEmpty then "" else " " ++ line)])]

/-- `Ok` of an expression. -/
def okOf (inner : List Token) : List Token :=
  code ":: core :: result :: Result :: Ok" ++ inParens inner

namespace Style

/-- A name of the run-time library. -/
def library (s : Style) (path : String) : List Token := s.runtime ++ code (":: " ++ path)

/-- The documentation of an item, line by line. -/
def doc (s : Style) (text : String) : List Token :=
  if !s.emitDocs || text.isEmpty then [] else (Text.lines text).flatMap docLine

/-- A shared object of the run-time library. -/
def shared (s : Style) (trait : String) : List Token :=
  code ":: std :: sync :: Arc < dyn" ++ s.library trait ++ code ">"

/-- The store of a class. -/
def store (s : Style) : List Token := s.shared "KeyValueStore"

/-- The strings of a class. -/
def strings (s : Style) : List Token := s.shared "ResourceStrings"

/-- A result that may fail with a preference error. -/
def resultOf (s : Style) (ok : List Token) : List Token :=
  code ":: core :: result :: Result <" ++ ok ++ code "," ++ s.library "PrefError" ++ code ">"

end Style

end TypedPrefs.Generated
