import TypedPrefs.Code.Parameter

/-!
# Patterns

A pattern is told by its first two tokens. Where several patterns may match, they stand in a row
with bars between them; inside of brackets that is always so.
-/

namespace TypedPrefs.Code.Grammar

/-- The number of a field that has no name, as a decimal number. -/
def fieldNumber : Reader (List Token)
  | .literal s :: rest => (Literal.index? s).map fun n => ([.literal (toString n)], rest)
  | _ => none

/-- Whether a bar that stands alone begins here. -/
def beginsBar (ts : List Token) : Bool :=
  begins ['|'] ts && !beginsAny [['|', '|'], ['|', '=']] ts

/-- Patterns with bars between them and perhaps in front. Several of them are of no special form. -/
def alternatives (r : Nested) : Reader PatternSyntax := do
  let bar ← operatorIf ['|']
  let first ← r.pattern
  let more ← repeatWhile beginsBar
    (inRow [operator ['|'], do return (← r.pattern).tokens])
  if bar.isEmpty && more.isEmpty then return first
  else return ⟨.other, bar ++ first.tokens ++ more⟩

/-- The tokens of patterns with bars between them and perhaps in front. -/
def patterns (r : Nested) : Reader (List Token) := do return (← alternatives r).tokens

/-- Whether the end of a range is left out. -/
def endsPatternRange (ts : List Token) : Bool :=
  ts.isEmpty || beginsAny [['|'], ['='], [','], [';']] ts || beginsColon ts || beginsWord "if" ts

/-- An end of a range: a literal, a path or a constant block. -/
def patternBound (r : Nested) : Reader (List Token) :=
  select [(beginsLiteral, do return [← literal]),
    (fun ts => beginsPath ts || beginsAny [[':', ':'], ['<']] ts,
      do return (← anyPath r true).2.2),
    (beginsWord "const", inRow [word "const", body r])]

/-- The dots of a range and its end, behind its beginning. Three dots include the end, as two dots
and an equality sign do; an end that is included must be there. -/
def patternRange (r : Nested) (start : List Token) : Reader PatternSyntax := do
  let ts ← get
  if beginsAny [['.', '.', '='], ['.', '.', '.']] ts then
    let _ ← operator (if begins ['.', '.', '='] ts then ['.', '.', '='] else ['.', '.', '.'])
    if endsPatternRange (← get) then failure
    let form := if start.isEmpty then PatternForm.openRange else .other
    return ⟨form, start ++ Token.operator ['.', '.', '='] ++ (← patternBound r)⟩
  else
    let dots ← operator ['.', '.']
    let last ← whenAhead (!endsPatternRange ·) (patternBound r)
    let form :=
      if start.isEmpty && last.isEmpty then PatternForm.other
      else if start.isEmpty || last.isEmpty then .openRange
      else .other
    return ⟨form, start ++ dots ++ last⟩

/-- A field of a structure in a pattern. -/
def fieldPattern (r : Nested) : Reader (List Token) := do
  let attributes ← leading r
  let start ← get
  let modifiers ← inRow [wordIf "box", wordIf "ref", wordIf "mut"]
  if modifiers.isEmpty && !beginsIdentifier start then
    return attributes ++ (← inRow [fieldNumber, operator [':'], patterns r])
  else
    let w ← name
    if modifiers.isEmpty && begins [':'] (← get) then
      return attributes ++ w ++ (← inRow [operator [':'], patterns r])
    else if beginsWord "box" start then return attributes ++ (← usedSince start)
    else return attributes ++ modifiers ++ w

/-- The fields of a structure in a pattern. Two dots at the end stand for all others. -/
def fieldPatterns (r : Nested) : Nat → Reader (List Token)
  | 0 => failure
  | fuel + 1 => do
    if (← get).isEmpty then return []
    let start ← get
    let attributes ← leading r
    if ← ahead (begins ['.', '.']) then return attributes ++ (← operator ['.', '.'])
    set start
    let field ← fieldPattern r
    if (← get).isEmpty then return field
    let comma ← operator [',']
    return field ++ comma ++ (← fieldPatterns r fuel)

/-- A pattern that begins with a path: a constant, a macro, a structure, a tuple or a range. -/
def pathPattern (r : Nested) : Reader PatternSyntax := do
  let (isUnqualified, p, tokens) ← anyPath r true
  let behindPath (read : Reader (List Token)) : Reader PatternSyntax := do
    return ⟨.other, tokens ++ (← read)⟩
  select [
    (fun ts => isUnqualified && p.isPlain && beginsBang ts, behindPath callArguments),
    (beginsGroup .brace, behindPath (group .brace do fieldPatterns r ((← get).length + 1))),
    (beginsGroup .paren, behindPath (group .paren (commaSeries (patterns r)))),
    (begins ['.', '.'], patternRange r tokens),
    (fun _ => true, return ⟨.other, tokens⟩)]

/-- A literal or a constant block, perhaps as the beginning of a range. -/
def constantPattern (r : Nested) : Reader PatternSyntax := do
  let first ← patternBound r
  if ← ahead (begins ['.', '.']) then patternRange r first else return ⟨.other, first⟩

/-- A name that is bound, perhaps to what another pattern matches. -/
def binding (r : Nested) : Reader (List Token) :=
  inRow [wordIf "ref", wordIf "mut",
    select [(beginsWord "self", word "self"), (fun _ => true, name)],
    whenAhead (begins ['@']) (inRow [operator ['@'], do return (← r.pattern).tokens])]

/-- An element of a slice pattern. A range there has a beginning and an end. -/
def slicePattern (r : Nested) : Reader (List Token) := do
  let p ← alternatives r
  if p.form = .openRange then failure else return p.tokens

/-- Whether a pattern that begins with a path begins here. -/
def beginsPathPattern (ts : List Token) : Bool :=
  let goesOn (ts : List Token) : Bool :=
    beginsAny [[':', ':'], ['!'], ['.', '.']] ts || beginsGroup .brace ts || beginsGroup .paren ts
  (beginsIdentifier ts && second goesOn ts) ||
    (beginsWord "self" ts && second (begins [':', ':']) ts) ||
    beginsAny [[':', ':'], ['<']] ts || beginsAnyWord ["Self", "super", "crate"] ts

/-- A pattern without alternatives, given readers for the code inside of it. -/
def patternStep (r : Nested) : Reader PatternSyntax := do
  let plain (read : Reader (List Token)) : Reader PatternSyntax := do return ⟨.other, ← read⟩
  select [
    (beginsPathPattern, pathPattern r),
    (beginsWord "_", plain (word "_")),
    (beginsWord "box", do
      return ⟨.raw, ← verbatim do
        let _ ← word "box"
        r.pattern⟩),
    (fun ts => begins ['-'] ts || beginsLiteral ts || beginsWord "const" ts, constantPattern r),
    (fun ts => beginsAnyWord ["ref", "mut", "self"] ts || beginsIdentifier ts, plain (binding r)),
    (begins ['&'], plain (inRow [operator ['&'], wordIf "mut",
      do return (← r.pattern).tokens])),
    (beginsGroup .paren, plain (group .paren (commaSeries (patterns r)))),
    (beginsGroup .bracket, plain (group .bracket (commaSeries (slicePattern r)))),
    (fun ts => begins ['.', '.'] ts && !begins ['.', '.', '.'] ts, patternRange r [])]

end TypedPrefs.Code.Grammar
