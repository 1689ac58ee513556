import TypedPrefs.Code.Pattern
import TypedPrefs.Code.Type
import TypedPrefs.Text.Pieces

/-!
# Expressions

An operand is told by its first tokens; calls, fields and the like may follow it. Operators join
operands, tighter ones first. Comparisons cannot be chained, and a range with an end is no left
operand. What stands in front of a block, such as a condition, has no braces with fields.
-/

namespace TypedPrefs.Code.Grammar

/-- An expression of no special form. -/
def plain (tokens : List Token) : ExpressionSyntax := ⟨.other, tokens, false⟩

/-- Whether an expression begins here, where one may be left out. -/
def beginsExpression (ts : List Token) : Bool :=
  (beginsSomeWord ts && !beginsWord "as" ts) || beginsGroup .paren ts ||
    beginsGroup .bracket ts || beginsGroup .brace ts || beginsLiteral ts || beginsBang ts ||
    (begins ['-'] ts && !beginsAny [['-', '='], ['-', '>']] ts) ||
    (begins ['*'] ts && !begins ['*', '='] ts) || (begins ['|'] ts && !begins ['|', '='] ts) ||
    (begins ['&'] ts && !begins ['&', '='] ts) || begins ['.', '.'] ts ||
    (begins ['<'] ts && !beginsAny [['<', '='], ['<', '<', '=']] ts) || begins [':', ':'] ts ||
    beginsLifetime ts || begins ['#'] ts

/-- An expression, if one begins here. -/
def valueIf (r : Nested) : Reader (List Token) := whenAhead beginsExpression (value r)

/-! ## Blocks and loops -/

/-- A condition and the block that it guards. -/
def guarded (r : Nested) : Reader (List Token) := inRow [word "if", condition r, block r]

/-- A condition with a block, perhaps with further ones, and perhaps a block for all other cases. -/
def ifExpression (r : Nested) : Reader (List Token) :=
  inRow [guarded r,
    repeatWhile (fun ts => beginsWord "else" ts && second (beginsWord "if") ts)
      (inRow [word "else", guarded r]),
    whenAhead (beginsWord "else") (inRow [word "else", block r])]

/-- A loop with a condition. -/
def whileLoop (r : Nested) : Reader (List Token) := inRow [word "while", condition r, body r]

/-- A loop over the items of a value. -/
def forLoop (r : Nested) : Reader (List Token) :=
  inRow [word "for", patterns r, word "in", condition r, body r]

/-- A loop without an end. -/
def endlessLoop (r : Nested) : Reader (List Token) := inRow [word "loop", body r]

/-- Whether a binder of lifetimes in front of a function begins here. -/
def beginsClosureBinder (ts : List Token) : Bool :=
  beginsWord "for" ts && second (begins ['<']) ts &&
    third (fun ts => beginsLifetime ts || begins ['>'] ts) ts

/-- A block or loop behind a label. -/
def labeled (r : Nested) : Reader (List Token) :=
  inRow [lifetime, operator [':'], select [(beginsWord "while", whileLoop r),
    (beginsWord "for", forLoop r), (beginsWord "loop", endlessLoop r),
    (beginsGroup .brace, body r)]]

/-- The fields that a literal behind a point stands for. A number with a point in it is the number
of a field and that of a field inside, or the number of a field and the point behind it: the result
tells which, with the tokens. -/
def fieldNumbers (s : String) : Option (Bool × List Token) := do
  let parts := Text.splitAtChar '.' s
  let isOpen := 1 < parts.length && parts.getLast? == some ""
  let numbers ← (if isOpen then parts.dropLast else parts).mapM Literal.index?
  let fields := numbers.map fun n => [Token.literal (toString n)]
  return (isOpen, List.intercalate (Token.operator ['.']) fields ++
    if isOpen then Token.operator ['.'] else [])

/-- A field with a name, or a call of a method. -/
def namedMember (r : Nested) : Reader (List Token) := do
  let w ← name
  let arguments ← if ← ahead (begins [':', ':']) then angleArguments r else pure .none
  if !arguments.tokens.isEmpty || beginsGroup .paren (← get) then
    return w ++ arguments.tokens ++ (← group .paren (commaSeries (value r)))
  else return w

/-- What stands behind a point: a member, or the word that waits for a result. -/
def member (r : Nested) : Reader (List Token) := do
  let behindPoint (read : Reader (List Token)) : Reader (List Token) :=
    select [(beginsWord "await", word "await"), (beginsIdentifier, namedMember r),
      (fun _ => true, read)]
  behindPoint do
    match ← get with
    | .literal s :: rest =>
      match fieldNumbers s with
      | none => failure
      | some (isOpen, tokens) =>
        set rest
        if isOpen then return tokens ++ (← behindPoint fieldNumber) else return tokens
    | _ => failure

/-- Calls, fields, indices and the like behind an operand. -/
def trailed (r : Nested) : Nat → ExpressionSyntax → Reader ExpressionSyntax
  | 0, _ => failure
  | fuel + 1, e => do
    let ts ← get
    let isRange := match e.form with
      | .range _ => true
      | _ => false
    let next (read : Reader (List Token)) : Reader ExpressionSyntax := do
      trailed r fuel (plain (e.tokens ++ (← read)))
    if beginsGroup .paren ts then next (group .paren (commaSeries (value r)))
    else if beginsGroup .bracket ts then next (group .bracket (value r))
    else if beginsPoint ts && !isRange then next (inRow [operator ['.'], member r])
    else if begins ['?'] ts && !isRange then next (operator ['?'])
    else return e

/-- An operand with what follows it. -/
def trailers (r : Nested) (e : ExpressionSyntax) : Reader ExpressionSyntax := do
  trailed r ((← get).length + 1) e

/-! ## Operands -/

/-- The dots of a range: two, perhaps with an equality sign. -/
def rangeDots : Reader (List Token) := do
  if ← ahead (begins ['.', '.', '.']) then failure
  else select [(begins ['.', '.', '='], operator ['.', '.', '=']),
    (fun _ => true, operator ['.', '.'])]

/-- A parameter of a function without a name. -/
def closureParameter (r : Nested) : Reader (List Token) := do
  let attributes ← leading r
  let p ← r.pattern
  if ← ahead (begins [':']) then return attributes ++ p.tokens ++ (← ascription r)
  else return (if p.form = .raw then [] else attributes) ++ p.tokens

/-- A function without a name. One with a written result type has a block. -/
def closure (r : Nested) (braces : Bool) : Reader (List Token) :=
  inRow [binder r, wordIf "const", wordIf "static", wordIf "async", wordIf "move", operator ['|'],
    series [','] (begins ['|']) (closureParameter r), operator ['|'],
    select [(begins ['-', '>'], inRow [operator ['-', '>'], written r true, block r]),
      (fun _ => true, do return (← expression r braces).tokens)]]

/-- Whether a function without a name begins here. -/
def beginsClosure (ts : List Token) : Bool :=
  begins ['|'] ts || beginsAnyWord ["move", "static"] ts || beginsClosureBinder ts ||
    (beginsWord "const" ts && !second (beginsGroup .brace) ts) ||
    (beginsWord "async" ts && second (fun ts => begins ['|'] ts || beginsWord "move" ts) ts)

/-- Whether a block that is run later begins here. -/
def beginsAsync (ts : List Token) : Bool :=
  beginsWord "async" ts && second (fun ts => beginsGroup .brace ts ||
    (beginsWord "move" ts && second (beginsGroup .brace) ts)) ts

/-- A field of a structure. One with a name may stand for the variable of that name. -/
def fieldValue (r : Nested) : Reader (List Token) := do
  let attributes ← leading r
  if ← ahead beginsIdentifier then
    let named ← inRow [name, whenAhead (begins [':']) (inRow [operator [':'], value r])]
    return attributes ++ named
  else return attributes ++ (← inRow [fieldNumber, operator [':'], value r])

/-- The fields of a structure. Two dots at the end stand for the fields of another value. -/
def fieldValues (r : Nested) : Nat → Reader (List Token)
  | 0 => failure
  | fuel + 1 => do
    if (← get).isEmpty then return []
    if ← ahead (begins ['.', '.']) then
      inRow [operator ['.', '.'], whenAhead (!·.isEmpty) (value r)]
    else
      let field ← fieldValue r
      if (← get).isEmpty then return field
      let comma ← operator [',']
      return field ++ comma ++ (← fieldValues r fuel)

/-- A path, a macro or a structure. -/
def pathExpression (r : Nested) (braces : Bool) : Reader ExpressionSyntax := do
  let (isUnqualified, p, tokens) ← anyPath r true
  let ts ← get
  if isUnqualified && p.isPlain && beginsBang ts then
    let form := if second (beginsGroup .brace) ts then ExpressionForm.bracedCall else .other
    return ⟨form, tokens ++ (← callArguments), false⟩
  else if braces && beginsGroup .brace ts then
    return plain (tokens ++ (← group .brace do fieldValues r ((← get).length + 1)))
  else return ⟨.path p, tokens, false⟩

/-- An array, given by its elements or by one of them and their number. -/
def arrayContent (r : Nested) : Reader (List Token) := do
  if (← get).isEmpty then return []
  let first ← value r
  if ← ahead (begins [';']) then return first ++ (← inRow [operator [';'], value r])
  else return first ++ (← whenAhead (begins [',']) (inRow [operator [','], commaSeries (value r)]))

/-- The end of a loop or block, perhaps with its label and a value. -/
def breakExpression (r : Nested) (braces : Bool) : Reader (List Token) := do
  let sign ← word "break"
  let label ← whenAhead beginsLifetime lifetime
  if !label.isEmpty && begins [':'] (← get) then failure
  let ts ← get
  if beginsGroup .brace ts && !braces then return sign ++ label
  else return sign ++ label ++ (← valueIf r)

/-- A pattern and the value that it is to match. -/
def letExpression (r : Nested) (braces : Bool) : Reader (List Token) := do
  let tokens ← inRow [word "let", patterns r, operator ['=']]
  let e ← r.extended braces .compare (← r.operand braces)
  return tokens ++ e.tokens

/-- An arm of a choice between patterns. A comma follows it unless it is the last one or ends in a
block. -/
def arm (r : Nested) : Reader (List Token) := do
  let head ← inRow [leading r, patterns r,
    whenAhead (beginsWord "if") (inRow [word "if", value r]), operator ['=', '>']]
  let e ← r.early
  let needsComma := match e.form with
    | .block => false
    | _ => true
  let comma ← if needsComma && !(← get).isEmpty then operator [','] else operatorIf [',']
  return head ++ e.tokens ++ comma

/-- What may follow the dots of a range without an end. -/
def endsRange (braces : Bool) (ts : List Token) : Bool :=
  ts.isEmpty || beginsPoint ts || (!braces && beginsGroup .brace ts) || beginsWord "as" ts ||
    beginsAny [[','], [';'], ['?'], ['=', '>'], ['='], ['+'], ['/'], ['%'], ['^'], ['>'],
      ['<', '='], ['!', '='], ['-', '='], ['*', '='], ['&', '='], ['|', '='], ['<', '<', '=']] ts

/-! ## Operators -/

/-- The operators between two operands with their precedences, longer ones before their
beginnings. -/
def binaryOperators : List (List Char × Precedence) :=
  [(['+', '='], .assign), (['-', '='], .assign), (['*', '='], .assign), (['/', '='], .assign),
    (['%', '='], .assign), (['^', '='], .assign), (['&', '='], .assign), (['|', '='], .assign),
    (['<', '<', '='], .assign), (['>', '>', '='], .assign), (['&', '&'], .and), (['|', '|'], .or),
    (['<', '<'], .shift), (['>', '>'], .shift), (['=', '='], .compare), (['<', '='], .compare),
    (['!', '='], .compare), (['>', '='], .compare), (['+'], .sum), (['-'], .sum),
    (['*'], .product), (['/'], .product), (['%'], .product), (['^'], .bitXor), (['&'], .bitAnd),
    (['|'], .bitOr), (['<'], .compare), (['>'], .compare)]

/-- The operator between two operands that begins here. -/
def binaryOperator? (ts : List Token) : Option (List Char × Precedence) :=
  binaryOperators.find? fun (op, _) => begins op ts

/-- Whether a sign of assignment begins here. -/
def beginsAssignment (ts : List Token) : Bool := begins ['='] ts && !begins ['=', '>'] ts

/-- The precedence of what follows an operand. -/
def precedenceOf (ts : List Token) : Precedence :=
  match binaryOperator? ts with
  | some (_, p) => p
  | none =>
    if beginsAssignment ts then .assign
    else if begins ['.', '.'] ts then .range
    else if beginsWord "as" ts then .cast
    else .lowest

/-- A right operand becomes longer as long as tighter operators follow it. -/
def tightened (r : Nested) (braces : Bool) (p : Precedence) :
    Nat → ExpressionSyntax → Reader ExpressionSyntax
  | 0, _ => failure
  | fuel + 1, e => do
    let ts ← get
    let next := precedenceOf ts
    if p.rank < next.rank || (next = p && p = .assign) then
      let longer ← r.extended braces next e
      if (← get).length = ts.length then return longer else tightened r braces p fuel longer
    else return e

/-- The operand to the right of an operator. -/
def rightOperand (r : Nested) (braces : Bool) (p : Precedence) : Reader ExpressionSyntax := do
  let e ← r.operand braces
  tightened r braces p ((← get).length + 1) e

/-- The dots of a range and its end, behind its beginning. -/
def rangeFrom (r : Nested) (braces : Bool) (start : List Token) : Reader ExpressionSyntax := do
  let isClosed ← ahead (begins ['.', '.', '='])
  let dots ← rangeDots
  if !isClosed && endsRange braces (← get) then return ⟨.range false, start ++ dots, false⟩
  else
    let last ← rightOperand r braces .range
    return ⟨.range true, start ++ dots ++ last.tokens, false⟩

/-- Whether what follows the type of a conversion would belong to it. -/
def clingsToType (ts : List Token) : Bool :=
  beginsPoint ts || begins ['?'] ts || beginsGroup .bracket ts || beginsGroup .paren ts

/-- A conversion of an operand to a type. -/
def conversion (r : Nested) (e : ExpressionSyntax) : Reader ExpressionSyntax := do
  let tokens ← inRow [word "as", written r false]
  if clingsToType (← get) then failure
  return ⟨.other, e.tokens ++ tokens, e.startsRaw⟩

/-- Two operands with an operator between them. -/
def binary (r : Nested) (braces : Bool) (e : ExpressionSyntax) (op : List Char) (p : Precedence) :
    Reader ExpressionSyntax := do
  let sign ← operator op
  let right ← rightOperand r braces p
  let form := if p = .compare then ExpressionForm.comparison else .other
  return ⟨form, e.tokens ++ sign ++ right.tokens, e.startsRaw⟩

/-- What an operand becomes by the operators behind it, given readers for the code inside. -/
def extendedStep (r : Nested) (braces : Bool) (base : Precedence) (e : ExpressionSyntax) :
    Reader ExpressionSyntax := do
  let ts ← get
  let (isRange, isBounded) := match e.form with
    | .range bounded => (true, bounded)
    | _ => (false, false)
  let isComparison := match e.form with
    | .comparison => true
    | _ => false
  let next (read : Reader ExpressionSyntax) : Reader ExpressionSyntax := do
    r.extended braces base (← read)
  let reaches (p : Precedence) : Bool := base.rank ≤ p.rank
  if isBounded then return e
  match binaryOperator? ts with
  | some (op, p) =>
    if !reaches p || (p = .assign && isRange) then return e
    else if p = .compare && isComparison then failure
    else next (binary r braces e op p)
  | none =>
    if reaches .assign && beginsAssignment ts && !isRange then
      next (binary r braces e ['='] .assign)
    else if reaches .range && begins ['.', '.'] ts then next (rangeFrom r braces e.tokens)
    else if reaches .cast && beginsWord "as" ts then next (conversion r e)
    else return e

/-! ## Operands and statements -/

/-- Whether a form begins here that ends in a block and makes a statement of its own. -/
def beginsBlockForm (ts : List Token) : Bool :=
  beginsAnyWord ["if", "while", "loop", "match"] ts ||
    (beginsWord "for" ts && !beginsClosureBinder ts) ||
    (beginsAnyWord ["try", "unsafe", "const"] ts && second (beginsGroup .brace) ts) ||
    beginsGroup .brace ts || beginsLifetime ts

/-- A form that ends in a block and makes a statement of its own. -/
def blockForm (r : Nested) : Reader ExpressionSyntax := do
  let tokens ← select [
    (beginsWord "if", ifExpression r),
    (beginsWord "while", whileLoop r),
    (beginsWord "for", forLoop r),
    (beginsWord "loop", endlessLoop r),
    (beginsWord "match", inRow [word "match", condition r,
      group .brace (inRow [innerAttributes r, repeatToEnd (arm r)])]),
    (beginsWord "try", inRow [word "try", block r]),
    (beginsWord "unsafe", inRow [word "unsafe", body r]),
    (beginsWord "const", inRow [word "const", body r]),
    (beginsGroup .brace, body r),
    (beginsLifetime, labeled r)]
  return ⟨.block, tokens, false⟩

/-- Code that is kept as it is. -/
def raw (read : Reader (List Token)) : Reader ExpressionSyntax := do
  return ⟨.raw, ← verbatim read, true⟩

/-- An operand without signs in front of it and calls behind it. -/
def atom (r : Nested) (braces : Bool) : Reader ExpressionSyntax :=
  let other (read : Reader (List Token)) : Reader ExpressionSyntax := do return plain (← read)
  select [
    (beginsLiteral, do return ⟨.literal, [← literal], false⟩),
    (beginsAsync, other (inRow [word "async", wordIf "move", block r])),
    (beginsClosure, other (closure r braces)),
    (beginsBuiltin, raw builtin),
    (fun ts => beginsPath ts || beginsAny [[':', ':'], ['<']] ts || (beginsWord "try" ts &&
      second (beginsAny [['!'], [':', ':']]) ts), pathExpression r braces),
    (beginsGroup .paren, other (group .paren (commaSeries (value r)))),
    (beginsWord "break", other (breakExpression r braces)),
    (beginsWord "continue", other (inRow [word "continue", whenAhead beginsLifetime lifetime])),
    (beginsWord "return", other (inRow [word "return", valueIf r])),
    (beginsWord "become", raw (inRow [word "become", value r])),
    (beginsGroup .bracket, other (group .bracket (arrayContent r))),
    (beginsWord "let", other (letExpression r braces)),
    (beginsWord "yield", other (inRow [word "yield", valueIf r])),
    (beginsBlockForm, blockForm r),
    (begins ['.', '.'], rangeFrom r braces []),
    (beginsWord "_", other (word "_"))]

/-- The words that make a reference a bare address, if they are there. -/
def addressWords : Reader (List Token) :=
  whenAhead (fun ts => beginsWord "raw" ts && second (beginsAnyWord ["mut", "const"]) ts)
    (inRow [word "raw", whenAhead (beginsWord "const") (word "const")])

/-- Signs and an operand with an operand behind them. -/
def signed (r : Nested) (braces : Bool) (attributes : List Token) (signs : Reader (List Token)) :
    Reader ExpressionSyntax := do
  let tokens ← signs
  return plain (attributes ++ tokens ++ (← r.operand braces).tokens)

/-- An operand with its attributes, the signs in front of it and what follows it, given readers for
the code inside. A range that begins with its dots has no attributes. -/
def operandStep (r : Nested) (braces : Bool) : Reader ExpressionSyntax := do
  let start ← get
  let attributes ← leading r
  let ts ← get
  if begins ['&'] ts then
    signed r braces attributes (inRow [operator ['&'], addressWords, wordIf "mut"])
  else if begins ['*'] ts then signed r braces attributes (operator ['*'])
  else if begins ['!'] ts then signed r braces attributes (operator ['!'])
  else if begins ['-'] ts then signed r braces attributes (operator ['-'])
  else
    let e ← trailers r (← atom r braces)
    match e.form with
    | .raw => return { e with tokens := ← usedSince start }
    | .range _ => if attributes.isEmpty then return e else failure
    | _ => return { e with tokens := attributes ++ e.tokens }

/-- An expression as a statement or as the result of an arm. A form that ends in a block is over
with the block, unless a point or a question mark follows. Attributes of raw code are lost. -/
def earlyStep (r : Nested) : Reader ExpressionSyntax := do
  let attributes ← leading r
  let isBlock ← ahead beginsBlockForm
  let e ← if isBlock then blockForm r else r.operand true
  let attributed (e : ExpressionSyntax) : ExpressionSyntax :=
    if e.startsRaw then e else { e with tokens := attributes ++ e.tokens }
  if !isBlock then r.extended true .lowest (attributed e)
  else if ← ahead fun ts => beginsPoint ts || begins ['?'] ts then
    r.extended true .lowest (attributed (← trailers r e))
  else return attributed e

end TypedPrefs.Code.Grammar
