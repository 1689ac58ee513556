import TypedPrefs.Generated.Style

/-!
# Types in generated code

Wrapper types become the primitives that they wrap; text and sets become those of the standard
library; other names are paths as they were declared.

`typeTokens` is `rust_type` of the generator's module `emit`, and `pathTokens` is `path_tokens`.
-/

namespace TypedPrefs.Generated

open Code Code.Token

/-- The pieces of a text between the pairs of colons in it. -/
def colonPieces : List Char → List (List Char)
  | [] => [[]]
  | ':' :: ':' :: rest => [] :: colonPieces rest
  | c :: rest =>
    match colonPieces rest with
    | [] => [[c]]
    | piece :: more => (c :: piece) :: more

/-- Whether a declared name begins with two colons. -/
def isAbsolute (s : String) : Bool := [':', ':'].isPrefixOf s.toList

/-- The segments of a declared name. -/
def pathSegments (s : String) : List String :=
  (colonPieces (if isAbsolute s then s.toList.drop 2 else s.toList)).map String.ofList

/-- Names with two colons between them. -/
def segmentTokens : List String → List Token
  | [] => []
  | [s] => name s
  | s :: rest => name s ++ code "::" ++ segmentTokens rest

/-- The path of a declared name. -/
def pathTokens (s : String) : List Token :=
  (if isAbsolute s then code "::" else []) ++ segmentTokens (pathSegments s)

/-- Types with commas between them. -/
def commaTokens : List (List Token) → List Token
  | [] => []
  | [t] => t
  | t :: rest => t ++ code "," ++ commaTokens rest

/-- The text type of the standard library. -/
def textType : List Token := code ":: std :: string :: String"

/-- The set type of the standard library, up to its argument. -/
def setType : List Token := code ":: std :: collections :: BTreeSet <"

/-- A declared type with its arguments, which are given as tokens. -/
def declaredTokens (s : Style) (declared : String) (args : List (List Token)) : List Token :=
  match PrimitiveKind.ofBoxedName? declared, args with
  | some kind, [] => code kind.codeName
  | _, _ =>
    if declared = Builtin.string then textType
    else if declared = Builtin.set then setType ++ args.headD textType ++ code ">"
    else if declared = Builtin.typeToken then
      s.library "TypeToken <" ++ commaTokens args ++ code ">"
    else if declared = Builtin.enumSerializer then
      s.library "EnumSerializer <" ++ commaTokens args ++ code ">"
    else if args.isEmpty then pathTokens declared
    else pathTokens declared ++ code "<" ++ commaTokens args ++ code ">"

mutual

/-- The tokens of a type. -/
def typeTokens (s : Style) : TypeRef → List Token
  | .primitive kind => code kind.codeName
  | .void => inParens []
  | .variable v => name v
  | .declared declared args => declaredTokens s declared (typeTokensEach s args)

/-- The tokens of each of some types. -/
def typeTokensEach (s : Style) : List TypeRef → List (List Token)
  | [] => []
  | t :: rest => typeTokens s t :: typeTokensEach s rest

end

/-- Whether a declared name is written as its path. -/
def isWrittenAsPath (declared : String) (hasArgs : Bool) : Bool :=
  ((PrimitiveKind.ofBoxedName? declared).isNone || hasArgs) &&
    !([Builtin.string, Builtin.set, Builtin.typeToken, Builtin.enumSerializer].contains declared)

mutual

/-- The names in a type that become names of generated code. -/
def typeNames : TypeRef → List String
  | .primitive _ => []
  | .void => []
  | .variable v => [v]
  | .declared declared args =>
    typeNamesAmong args ++
      if isWrittenAsPath declared (!args.isEmpty) then pathSegments declared else []

/-- The names in some types that become names of generated code. -/
def typeNamesAmong : List TypeRef → List String
  | [] => []
  | t :: rest => typeNames t ++ typeNamesAmong rest

end

end TypedPrefs.Generated
