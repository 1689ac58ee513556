import TypedPrefs.Code.Expression

/-!
# Statements

A block is a row of statements: bindings, items, macros and expressions. An expression that does not
end in a block needs a semicolon behind it, unless it is the last one.
-/

namespace TypedPrefs.Code.Grammar

/-- The path of a macro that begins here and what follows its exclamation mark. -/
def afterMacroName? (ts : List Token) : Option (List Token) :=
  match plainPath ts with
  | some (_, rest) => if begins ['!'] rest then some (behind rest) else none
  | none => none

/-- Whether the definition of a macro begins here: a name stands behind the exclamation mark. -/
def beginsMacroItem (ts : List Token) : Bool :=
  (afterMacroName? ts).any fun ts => beginsIdentifier ts || beginsWord "try" ts

/-- Whether a macro with arguments in braces begins here that is a statement of its own. -/
def beginsMacroStatement (ts : List Token) : Bool :=
  (afterMacroName? ts).any fun ts =>
    beginsGroup .brace ts && !second (fun ts => beginsPoint ts || begins ['?'] ts) ts

/-- Whether the function behind the word `const` or `static` is one without a name. -/
def beginsConstantClosure (ts : List Token) : Bool :=
  beginsAnyWord ["static", "move"] ts || begins ['|'] ts ||
    (beginsWord "async" ts && !second (beginsAnyWord ["unsafe", "extern", "fn"]) ts)

/-- Whether an item begins here, where an expression may as well. -/
def beginsItem (ts : List Token) : Bool :=
  beginsAnyWord ["pub", "extern", "use", "fn", "mod", "type", "struct", "enum", "trait", "impl",
    "macro"] ts ||
    (beginsWord "crate" ts && !second (begins [':', ':']) ts) ||
    (beginsWord "static" ts && second (fun ts => beginsWord "mut" ts || beginsIdentifier ts) ts) ||
    (beginsWord "const" ts &&
      !second (fun ts => beginsGroup .brace ts || beginsConstantClosure ts) ts) ||
    (beginsWord "unsafe" ts && !second (beginsGroup .brace) ts) ||
    (beginsWord "async" ts && second (beginsAnyWord ["unsafe", "extern", "fn"]) ts) ||
    (beginsWord "union" ts && second beginsIdentifier ts) ||
    (beginsWord "auto" ts && second (beginsWord "trait") ts) ||
    (beginsWord "default" ts && second (beginsAnyWord ["unsafe", "impl"]) ts) ||
    beginsMacroItem ts

/-- Whether tokens end in braces. -/
def endsInBraces (ts : List Token) : Bool :=
  match ts.getLast? with
  | some (.group .brace _) => true
  | _ => false

/-- A value that is bound, and perhaps a block for the case that the pattern does not match. -/
def initializer (r : Nested) : Reader (List Token) := do
  let sign ← operator ['=']
  let tokens ← value r
  if !endsInBraces tokens && beginsWord "else" (← get) then
    return sign ++ tokens ++ (← inRow [word "else", block r])
  else return sign ++ tokens

/-- A binding. -/
def localBinding (r : Nested) : Reader (List Token) :=
  inRow [word "let", do return (← r.pattern).tokens,
    whenAhead (begins [':']) (ascription r), whenAhead (begins ['=']) (initializer r),
    operator [';']]

/-- An expression as a statement: whether it needs a semicolon that is missing, and its tokens. Its
attributes belong to the leftmost operand, and are lost if that is kept as it is. -/
def expressionStatement (r : Nested) (attributes : List Token) : Reader (Bool × List Token) := do
  let e ← r.early
  let semicolon ← operatorIf [';']
  let standsAlone := match e.form with
    | .block => true
    | .bracedCall => true
    | _ => false
  return (semicolon.isEmpty && !standsAlone,
    (if e.startsRaw then [] else attributes) ++ e.tokens ++ semicolon)

/-- A statement: whether it needs a semicolon that is missing, and its tokens. -/
def statement (r : Nested) : Reader (Bool × List Token) := do
  let start ← get
  let attributes ← leading r
  let ts ← get
  if beginsMacroStatement ts then
    return (false, attributes ++ (← inRow [plainPathTokens, callArguments, operatorIf [';']]))
  else if beginsWord "let" ts then return (false, attributes ++ (← localBinding r))
  else if beginsItem ts then
    set start
    return (false, ← r.item)
  else expressionStatement r attributes

/-- The statements of a block, up to the end, given readers for the code inside. -/
def statementsWithin (r : Nested) : Nat → Reader (List Token)
  | 0 => failure
  | fuel + 1 => do
    let ts ← get
    if ts.isEmpty then return []
    else if begins [';'] ts then return (← operator [';']) ++ (← statementsWithin r fuel)
    else
      let (isOpen, tokens) ← statement r
      if isOpen && !(← get).isEmpty then failure
      return tokens ++ (← statementsWithin r fuel)

/-- The statements of a block, up to the end, given readers for the code inside. -/
def statementsStep (r : Nested) : Reader (List Token) := do
  statementsWithin r ((← get).length + 1)

end TypedPrefs.Code.Grammar
