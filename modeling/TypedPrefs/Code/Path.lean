import TypedPrefs.Code.Attribute

/-!
# Paths

A path is a row of names with two colons between them. Each name may have arguments in angle
brackets; in an expression two colons must stand in front of these. A path may begin with a type in
angle brackets that its names belong to.
-/

namespace TypedPrefs.Code.Grammar

/-- A constant as an argument: a literal, a name or a block. -/
def constant (r : Nested) : Reader (List Token) :=
  select [(beginsLiteral, do return [← literal]), (beginsIdentifier, name),
    (beginsGroup .brace, body r)]

/-- Whether a constant that is no name begins here. -/
def beginsConstant (ts : List Token) : Bool := beginsLiteral ts || beginsGroup .brace ts

/-- What is said about an associated item behind its name: a value, a type or bounds. -/
def associated (r : Nested) (named : List Token) : Reader ArgumentSyntax := do
  if ← ahead (begins ['=']) then
    let sign ← operator ['=']
    let value ← if ← ahead beginsConstant then constant r else written r true
    return .associated (named ++ sign ++ value) false
  else
    let colon ← operator [':']
    let bounds ← series ['+'] (beginsAny [[','], ['>']]) do
      return (← r.bound ⟨false, true⟩).tokens
    return .associated (named ++ colon ++ bounds) false

/-- An argument in angle brackets. A single name may be that of an associated item. -/
def argument (r : Nested) : Reader ArgumentSyntax := do
  let ts ← get
  if beginsLifetime ts && !second (begins ['+']) ts then
    return .lifetime (← lifetimeName) false
  else if beginsConstant ts then
    return .constant (← constant r) false
  else
    let t ← r.type true
    let isName := match t with
      | .path (.mk false [_]) => true
      | _ => false
    if isName && beginsAny [['='], [':']] (← get) then associated r t.tokens
    else return .type t false

/-- Arguments in angle brackets, perhaps with two colons in front. -/
def angleArguments (r : Nested) : Reader ArgumentsSyntax := do
  let colons ← operatorIf [':', ':']
  let _ ← operator ['<']
  let items ← separated [','] (begins ['>']) (argument r)
  let _ ← operator ['>']
  return .angle (!colons.isEmpty) (items.map fun (a, comma) => a.withComma comma)

/-- Whether arguments in angle brackets begin here. -/
def beginsArguments (inExpression : Bool) (ts : List Token) : Bool :=
  (!inExpression && begins ['<'] ts && !beginsAny [['<', '='], ['<', '<', '=']] ts) ||
    (begins [':', ':'] ts && third (begins ['<']) ts)

/-- A name of a path with its arguments. -/
def segment (r : Nested) (inExpression : Bool) : Reader SegmentSyntax := do
  let w ← someWord
  if ["super", "self", "crate", "try"].contains w then return .mk w .none
  else if w != "Self" && !isIdentifierWord w then failure
  else if beginsArguments inExpression (← get) then return .mk w (← angleArguments r)
  else return .mk w .none

/-- A further name behind two colons. -/
def furtherSegment (r : Nested) (inExpression : Bool) : Reader SegmentSyntax := do
  let _ ← operator [':', ':']
  segment r inExpression

/-- A path. Two colons before a parenthesis end it. -/
def path (r : Nested) (inExpression : Bool) : Reader PathSyntax := do
  let colons ← operatorIf [':', ':']
  let first ← segment r inExpression
  let more ← many (fun ts => begins [':', ':'] ts && !third (beginsGroup .paren) ts)
    (furtherSegment r inExpression)
  return .mk (!colons.isEmpty) (first :: more)

/-- A path behind a type in angle brackets, from the opening bracket on: the path without the type,
and all of its tokens. -/
def qualifiedPath (r : Nested) (inExpression : Bool) : Reader (PathSyntax × List Token) := do
  let opening ← operator ['<']
  let type ← written r true
  let base : PathSyntax × List Token ←
    if ← ahead (beginsWord "as") then
      let sign ← word "as"
      let p ← path r false
      pure (p, sign ++ p.tokens)
    else pure (.mk false [], [])
  let closing ← operator ['>']
  let further ← many (begins [':', ':']) (furtherSegment r inExpression)
  if further.isEmpty then failure
  let absolute := base.2.isEmpty || base.1.absolute
  return (.mk absolute (base.1.segments ++ further),
    opening ++ type ++ base.2 ++ closing ++ (PathSyntax.mk true further).tokens)

/-- A path with or without a type in front of it: whether there is none, the path without the type,
and all of its tokens. -/
def anyPath (r : Nested) (inExpression : Bool) : Reader (Bool × PathSyntax × List Token) := do
  if ← ahead (begins ['<']) then return (false, ← qualifiedPath r inExpression)
  else
    let p ← path r inExpression
    return (true, p, p.tokens)

end TypedPrefs.Code.Grammar
