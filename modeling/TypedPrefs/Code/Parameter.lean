import TypedPrefs.Code.Path

/-!
# Parameters and conditions

The parameters that an item introduces in angle brackets, the lifetimes that a binder introduces,
and the conditions on them behind the word `where`. A parameter is written out in three ways: with
all of its parts, without its default where a block of its own introduces it, and as a bare name
where it is used.
-/

namespace TypedPrefs.Code

/-- Bounds, each with whether a plus sign follows it. -/
abbrev BoundSeries := List (BoundSyntax × Bool)

/-- The tokens of bounds. -/
def boundTokens (bounds : BoundSeries) : List Token :=
  Grammar.joined ['+'] (bounds.map fun (b, plus) => (b.tokens, plus))

/-- A parameter in angle brackets. A default is kept with its equality sign. -/
inductive ParameterSyntax where
  | lifetime (attributes : List Token) (name : String) (bounds : List Token)
  | type (attributes : List Token) (name : String) (bounds : BoundSeries) (default : List Token)
  | constant (attributes : List Token) (name : String) (type : List Token) (default : List Token)

namespace ParameterSyntax

/-- Whether the parameter is a lifetime. -/
def isLifetime : ParameterSyntax → Bool
  | .lifetime .. => true
  | _ => false

/-- Something behind a colon, or nothing. -/
def withColon (tokens : List Token) : List Token :=
  if tokens.isEmpty then [] else Token.operator [':'] ++ tokens

/-- The tokens of a parameter without its default. -/
def introduction : ParameterSyntax → List Token
  | .lifetime attributes name bounds => attributes ++ Token.lifetime name ++ withColon bounds
  | .type attributes name bounds _ => attributes ++ [.word name] ++ withColon (boundTokens bounds)
  | .constant attributes name written _ =>
    attributes ++ [.word "const", .word name] ++ Token.operator [':'] ++ written

/-- The tokens of a parameter. -/
def tokens : ParameterSyntax → List Token
  | .lifetime attributes name bounds => introduction (.lifetime attributes name bounds)
  | .type attributes name bounds default =>
    introduction (.type attributes name bounds default) ++ default
  | .constant attributes name written default =>
    introduction (.constant attributes name written default) ++ default

/-- The tokens of a parameter where it is used. -/
def use : ParameterSyntax → List Token
  | .lifetime _ name _ => Token.lifetime name
  | .type _ name _ _ => [.word name]
  | .constant _ name _ _ => [.word name]

end ParameterSyntax

/-- Parameters, each with whether a comma follows it. -/
abbrev ParameterSeries := List (ParameterSyntax × Bool)

/-- Parameters in angle brackets, each written out with the given function; nothing if there are
none. -/
def parameterTokens (write : ParameterSyntax → List Token) (parameters : ParameterSeries) :
    List Token :=
  if parameters.isEmpty then []
  else angleList (parameters.map fun (p, comma) => (p.isLifetime, write p, comma))

namespace Grammar

/-- Whether the bounds of a parameter end here. -/
def endsParameterBounds (ts : List Token) : Bool :=
  ts.isEmpty || beginsAny [[','], ['>'], ['=']] ts

/-- Bounds with plus signs between them, up to where `ends` holds. -/
def bounds (r : Nested) (ends : List Token → Bool) : Reader BoundSeries :=
  separated ['+'] ends (r.bound ⟨false, true⟩)

/-- Lifetimes behind a colon with plus signs between them, if the colon is there. -/
def lifetimeBounds (ends : List Token → Bool) : Reader (List Token) := do
  let colon ← operatorIf [':']
  if colon.isEmpty then return []
  else series ['+'] ends lifetime

/-- The type parameter behind its attributes. -/
def typeParameter (r : Nested) (attributes : List Token) : Reader ParameterSyntax := do
  let w ← identifier
  let colon ← operatorIf [':']
  let bounds ← if colon.isEmpty then pure [] else bounds r endsParameterBounds
  let default ← whenAhead (begins ['=']) (inRow [operator ['='], written r true])
  return .type attributes w bounds default

/-- The constant parameter behind its attributes. -/
def constantParameter (r : Nested) (attributes : List Token) : Reader ParameterSyntax := do
  let _ ← word "const"
  let w ← identifier
  let _ ← operator [':']
  let type ← written r true
  let default ← whenAhead (begins ['=']) (inRow [operator ['='], constant r])
  return .constant attributes w type default

/-- A parameter with its attributes. -/
def parameter (r : Nested) : Reader ParameterSyntax := do
  let attributes ← leading r
  if ← ahead beginsLifetime then
    let w ← lifetimeName
    return .lifetime attributes w (← lifetimeBounds endsParameterBounds)
  else if ← ahead (beginsWord "const") then constantParameter r attributes
  else typeParameter r attributes

/-- A parameter of an item. One without a name has neither bounds nor a default. -/
def itemParameter (r : Nested) : Reader ParameterSyntax := do
  let start ← get
  let attributes ← leading r
  if ← ahead (beginsWord "_") then
    let w ← someWord
    return .type attributes w [] []
  else
    set start
    parameter r

/-- The parameters of an item, if there are any. -/
def parameters (r : Nested) : Reader ParameterSeries := do
  let opening ← operatorIf ['<']
  if opening.isEmpty then return []
  else
    let items ← separated [','] (begins ['>']) (itemParameter r)
    let _ ← operator ['>']
    return items

/-- The tokens of the parameters of an item. -/
def parameterList (r : Nested) : Reader (List Token) := do
  return parameterTokens ParameterSyntax.tokens (← parameters r)

/-- A binder of lifetimes in front of a type or bound, if there is one. -/
def binder (r : Nested) : Reader (List Token) :=
  whenAhead (beginsWord "for") (inRow [word "for", operator ['<'],
    series [','] (begins ['>']) do return (← parameter r).tokens,
    operator ['>']])

/-- Whether a list of conditions, or of bounds in one, ends here. -/
def endsConditions (ts : List Token) : Bool :=
  ts.isEmpty || beginsGroup .brace ts || beginsAny [[','], [';'], ['=']] ts || beginsColon ts

/-- One condition: a lifetime or a type, and its bounds behind a colon. -/
def whereItem (r : Nested) : Reader (List Token) := do
  if ← ahead fun ts => beginsLifetime ts && second (begins [':']) ts then
    inRow [lifetime, operator [':'], series ['+'] endsConditions lifetime]
  else
    inRow [binder r, written r true, operator [':'],
      do return boundTokens (← bounds r endsConditions)]

/-- The conditions of an item, if there are any. The word for them needs no condition behind it, and
is left out then. -/
def conditions (r : Nested) : Reader (List Token) := do
  let sign ← wordIf "where"
  if sign.isEmpty then return []
  else
    let items ← series [','] endsConditions (whereItem r)
    return if items.isEmpty then [] else sign ++ items

end Grammar

end TypedPrefs.Code
