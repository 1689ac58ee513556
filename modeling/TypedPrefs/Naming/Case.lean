import TypedPrefs.Text.Pieces

/-!
# Name styles

Declared names may have any style. Accessors are in snake case, types in Pascal case and statics in
upper case.

These are the functions of the generator's module `naming`; `snakeCase` is `to_snake_case` and
`pascalCase` is `to_pascal_case`.
-/

namespace TypedPrefs.Naming

open Text

/-- Whether a new word begins at an upper-case character with these neighbours: after a lower-case
character or a digit, or at the last capital of a row of capitals. -/
def beginsWord (before after : Option Char) : Bool :=
  match before with
  | none => false
  | some b => isLowercase b || b.isDigit || (isUppercase b && after.any isLowercase)

/-- Snake case of the characters that follow `before`. A word that begins at a capital is set off by
an underscore, and capitals become lower case. The character before such a word is a letter or a
digit, so two underscores never meet. -/
def snakeAfter (before : Option Char) : List Char → List Char
  | [] => []
  | c :: rest =>
    if isUppercase c then
      (if beginsWord before rest.head? then ['_'] else []) ++ lower c ++ snakeAfter (some c) rest
    else c :: snakeAfter (some c) rest

/-- A name in snake case: `darkMode` gives `dark_mode`, `HTTPPort` gives `http_port`. -/
def snakeCase (s : String) : String := String.ofList (snakeAfter none s.toList)

/-- Characters with the first one in upper case. -/
def capitalizeChars : List Char → List Char
  | [] => []
  | c :: rest => upper c ++ rest

/-- A text with its first character in upper case. -/
def capitalize (s : String) : String := String.ofList (capitalizeChars s.toList)

/-- A name in Pascal case: the pieces between hyphens and underscores, each capitalized and
joined. -/
def pascalCase (s : String) : String :=
  String.ofList ((pieces (fun c => c == '-' || c == '_') s.toList).flatMap capitalizeChars)

/-- A text in upper case. -/
def upperCase (s : String) : String := String.ofList (s.toList.flatMap upper)

/-- The getter of a preference with the given method name. Fluent getters have the bare name. -/
def getterName (method : String) (isBoolean fluent : Bool) : String :=
  if fluent then method else if isBoolean then "is_" ++ method else "get_" ++ method

/-- The setter of a preference on its group. -/
def setterName (method : String) : String := "set_" ++ method

/-- The setter of a preference on the editor of its group. -/
def editorSetterName (method : String) (fluent : Bool) : String :=
  if fluent then method else setterName method

end TypedPrefs.Naming
