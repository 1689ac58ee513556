import TypedPrefs.Code.Nested

/-!
# Attributes

An attribute stands in square brackets behind a number sign, in front of the code that it belongs
to. Inside of a block it may also belong to the block around it; then an exclamation mark follows
the sign. What it says is a path, with tokens in brackets or with a value behind it, or without
either.
-/

namespace TypedPrefs.Code

/-- What an attribute says. -/
inductive MetaSyntax where
  | path (path : PathSyntax)
  | list (path : PathSyntax) (delimiter : Delimiter) (tokens : List Token)
  | value (path : PathSyntax) (value : ExpressionSyntax)

/-- The path of an attribute. -/
def MetaSyntax.name : MetaSyntax → PathSyntax
  | .path p => p
  | .list p _ _ => p
  | .value p _ => p

/-- The tokens of what an attribute says. -/
def MetaSyntax.tokens : MetaSyntax → List Token
  | .path p => p.tokens
  | .list p d tokens => p.tokens ++ [.group d tokens]
  | .value p v => p.tokens ++ Token.operator ['='] ++ v.tokens

namespace Grammar

/-- A path of names without arguments. `isName` tells whether a name begins. -/
def namePath (isName : List Token → Bool) : Reader PathSyntax := do
  let colons ← operatorIf [':', ':']
  let names ← separated [':', ':'] (!isName ·) someWord
  if names.getLast?.map Prod.snd == some false then
    return .mk (!colons.isEmpty) (names.map fun (w, _) => .mk w .none)
  else failure

/-- A path without arguments. -/
def plainPath : Reader PathSyntax := namePath beginsPath

/-- The tokens of a path without arguments. -/
def plainPathTokens : Reader (List Token) := do return (← plainPath).tokens

/-- The value of an attribute. One literal may stand for itself, also with a minus sign. -/
def metaValue (r : Nested) : Reader ExpressionSyntax := do
  match whole? literal (← get) with
  | some t =>
    set ([] : List Token)
    return ⟨.literal, [t], false⟩
  | none =>
    if ← ahead fun ts => begins ['#'] ts && second (beginsGroup .bracket) ts then failure
    else expression r true

/-- What follows the path of an attribute. -/
def metaBehind (r : Nested) (path : PathSyntax) : Reader MetaSyntax := do
  match ← get with
  | .group d inner :: rest =>
    set rest
    return .list path d inner
  | ts =>
    if begins ['='] ts then
      let _ ← operator ['=']
      return .value path (← metaValue r)
    else return .path path

/-- What an attribute says. -/
def metaItem (r : Nested) : Reader MetaSyntax := do
  if ← ahead (beginsWord "unsafe") then
    let w ← someWord
    metaBehind r (.mk false [.mk w .none])
  else metaBehind r (← plainPath)

/-- The attributes in front of some code. -/
def attributes (r : Nested) : Reader (List MetaSyntax) :=
  many (begins ['#']) do
    let _ ← operator ['#']
    inGroup .bracket (metaItem r)

/-- The tokens of attributes. -/
def attributeTokens (ms : List MetaSyntax) : List Token :=
  ms.flatMap fun m => Token.operator ['#'] ++ [.brackets m.tokens]

/-- The tokens of the attributes in front of some code. -/
def leading (r : Nested) : Reader (List Token) := do return attributeTokens (← attributes r)

/-- The tokens of attributes that belong to the code around them. -/
def innerAttributes (r : Nested) : Reader (List Token) :=
  repeatWhile (fun ts => begins ['#'] ts && second (begins ['!']) ts)
    (inRow [operator ['#'], operator ['!'],
      group .bracket do return (← metaItem r).tokens])

/-- A block that may begin with attributes. -/
def body (r : Nested) : Reader (List Token) :=
  group .brace (inRow [innerAttributes r, r.statements])

/-- The exclamation mark and the arguments of a macro. -/
def callArguments : Reader (List Token) := inRow [operator ['!'], rawGroup]

/-- Whether parentheses with a restriction of a visibility begin here. -/
def beginsRestriction : List Token → Bool
  | .group .paren [.word w] :: _ => ["crate", "self", "super"].contains w
  | .group .paren (.word w :: _) :: _ => w = "in"
  | _ => false

/-- A visibility, if there is one. -/
def visibility : Reader (List Token) :=
  whenAhead (beginsWord "pub")
    (inRow [word "pub", whenAhead beginsRestriction (group .paren (inRow [wordIf "in",
      plainPathTokens]))])

end Grammar

end TypedPrefs.Code
