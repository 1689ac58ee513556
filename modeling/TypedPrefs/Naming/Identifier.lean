import TypedPrefs.Text.Pieces

/-!
# Identifiers

Names in a declaration become identifiers of the generated code. A name can be used if it has the
form of an identifier and is no reserved word.

These are the functions of the generator's module `validate`; `isUsable` is `is_usable_identifier`.
-/

namespace TypedPrefs.Naming

open Text

/-- Words that cannot name a generated item. -/
def reservedWords : List String := [
  "_", "abstract", "as", "async", "await", "become", "box", "break", "const", "continue",
  "crate", "do", "dyn", "else", "enum", "extern", "false", "final", "fn", "for", "gen", "if",
  "impl", "in", "let", "loop", "macro", "match", "mod", "move", "mut", "override", "priv",
  "pub", "ref", "return", "self", "Self", "static", "struct", "super", "trait", "true", "try",
  "type", "typeof", "unsafe", "unsized", "use", "virtual", "where", "while", "yield"]

/-- Whether the characters form an identifier: one that may begin a name, then any number that may
continue it. -/
def isIdentifierChars : List Char → Bool
  | [] => false
  | c :: rest => isNameStart c && rest.all isNamePart

/-- Whether `s` is an identifier. -/
def isIdentifier (s : String) : Bool := isIdentifierChars s.toList

/-- Whether `s` is a list of identifiers with points between them. -/
def isQualifiedName (s : String) : Bool := (splitAtChar '.' s).all isIdentifier

/-- Whether `s` can follow an identifier without ending it. The empty text can. -/
def isIdentifierSuffix (s : String) : Bool := s.toList.all isNamePart

/-- Whether `s` is a word with a meaning of its own in the generated code. -/
def isReservedWord (s : String) : Bool := reservedWords.contains s

/-- Whether `s` can name a generated item. -/
def isUsable (s : String) : Bool := isIdentifier s && !isReservedWord s

end TypedPrefs.Naming
