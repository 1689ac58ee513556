import TypedPrefs.Code.Parameter

/-!
# Bounds

A bound is a lifetime, a type, or a list of the names that a type captures. A type may stand in
parentheses, behind a binder of lifetimes and behind a mark that relaxes it or keeps it constant,
and its last name may have arguments in parentheses.
-/

namespace TypedPrefs.Code.Grammar

/-- Whether arguments in parentheses begin here, perhaps behind two colons. -/
def beginsFunctionArguments (ts : List Token) : Bool :=
  beginsGroup .paren ts || (begins [':', ':'] ts && third (beginsGroup .paren) ts)

/-- The argument types and the result type of a function. -/
def functionArguments (r : Nested) : Reader (List Token) :=
  inRow [group .paren (commaSeries (written r true)), result r false]

/-- The path of a bound. -/
def boundPath (r : Nested) : Reader PathSyntax := do
  let p ← path r false
  if p.segments.getLast?.any SegmentSyntax.isBare && beginsFunctionArguments (← get) then
    let _ ← operatorIf [':', ':']
    return p.withArguments (.function (← functionArguments r))
  else return p

/-- The mark of a bound that holds in constant code, if it is there. -/
def constantMark (place : BoundPlace) : Reader (List Token) := do
  let ts ← get
  if beginsGroup .bracket ts || beginsWord "const" ts then
    if place.constants then
      if beginsGroup .bracket ts then group .bracket (word "const") else word "const"
    else failure
  else return []

/-- A type as a bound, without parentheses around it: whether it holds in constant code, its path
and all of its tokens. A relaxed bound has no binder. -/
def typeBound (r : Nested) (place : BoundPlace) : Reader (Bool × PathSyntax × List Token) := do
  let outer ← binder r
  let mark ← constantMark place
  let relaxed ← operatorIf ['?']
  if !relaxed.isEmpty && (!outer.isEmpty || beginsWord "for" (← get)) then failure
  let p ← boundPath r
  return (!mark.isEmpty, p, relaxed ++ outer ++ p.tokens)

/-- A name among captured ones: whether it is a lifetime, and its tokens. -/
def captured : Reader (Bool × List Token) := do
  if ← ahead beginsLifetime then return (true, ← lifetime)
  else if ← ahead fun ts => beginsIdentifier ts || beginsWord "Self" ts then
    return (false, [.word (← someWord)])
  else failure

/-- The names that a type captures, in angle brackets. -/
def captures : Reader (List Token) := do
  let sign ← word "use"
  let _ ← operator ['<']
  let items ← separated [','] (begins ['>']) captured
  let _ ← operator ['>']
  return sign ++ angleList (items.map fun ((isLifetime, tokens), comma) =>
    (isLifetime, tokens, comma))

/-- A type as a bound. -/
def namedBound (r : Nested) (place : BoundPlace) : Reader BoundSyntax := do
  let start ← get
  let inParens := beginsGroup .paren start
  let (isConstant, p, tokens) ←
    if inParens then inGroup .paren (typeBound r place) else typeBound r place
  if isConstant then return .constant (← usedSince start)
  else return .type p (if inParens then [.parens tokens] else tokens)

/-- A bound, given readers for the code inside of it. -/
def boundStep (r : Nested) (place : BoundPlace) : Reader BoundSyntax := do
  if ← ahead beginsLifetime then return .lifetime (← lifetimeName)
  else if ← ahead (beginsWord "use") then
    let tokens ← captures
    if place.captures then return .captures tokens else failure
  else namedBound r place

end TypedPrefs.Code.Grammar
