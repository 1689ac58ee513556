import TypedPrefs.Code.Token

/-!
# Code as written

What is kept of code that has been read: of a type expression the parts that matter to a
declaration, which are paths with their arguments, the empty tuple and parentheses, and of all other
code the tokens as they are written out again.
-/

namespace TypedPrefs.Code

mutual

/-- A type. -/
inductive TypeSyntax where
  /-- A path without a type in front of it. -/
  | path (path : PathSyntax)
  /-- The empty tuple. -/
  | unit
  /-- A type in parentheses. -/
  | paren (inner : TypeSyntax)
  /-- An object type that is a single bound, perhaps in parentheses. -/
  | lone (inParens : Bool) (bound : List Token)
  /-- Any other type. -/
  | other (tokens : List Token)

/-- A path: whether it begins with two colons, and its segments. -/
inductive PathSyntax where
  | mk (absolute : Bool) (segments : List SegmentSyntax)

/-- A name of a path with its arguments. -/
inductive SegmentSyntax where
  | mk (name : String) (arguments : ArgumentsSyntax)

/-- The arguments of a path segment. -/
inductive ArgumentsSyntax where
  | none
  /-- Arguments in angle brackets, possibly with two colons in front. -/
  | angle (colons : Bool) (items : List ArgumentSyntax)
  /-- Argument types in parentheses and a result type. -/
  | function (tokens : List Token)

/-- An argument in angle brackets, and whether a comma follows it. -/
inductive ArgumentSyntax where
  | lifetime (name : String) (comma : Bool)
  | type (type : TypeSyntax) (comma : Bool)
  | constant (tokens : List Token) (comma : Bool)
  /-- An associated item that is given a value or bounds. -/
  | associated (tokens : List Token) (comma : Bool)

end

instance : Inhabited TypeSyntax := ⟨.unit⟩

/-- Whether the path begins with two colons. -/
def PathSyntax.absolute : PathSyntax → Bool
  | .mk absolute _ => absolute

/-- The segments of a path. -/
def PathSyntax.segments : PathSyntax → List SegmentSyntax
  | .mk _ segments => segments

/-- The name of a segment. -/
def SegmentSyntax.name : SegmentSyntax → String
  | .mk name _ => name

/-- The arguments of a segment. -/
def SegmentSyntax.arguments : SegmentSyntax → ArgumentsSyntax
  | .mk _ arguments => arguments

/-- An argument with a comma behind it. -/
def ArgumentSyntax.withComma (comma : Bool) : ArgumentSyntax → ArgumentSyntax
  | .lifetime name _ => .lifetime name comma
  | .type t _ => .type t comma
  | .constant tokens _ => .constant tokens comma
  | .associated tokens _ => .associated tokens comma

/-- Items in a list that is written out lifetimes first: whether the item is a lifetime, its tokens,
and whether a comma follows it. -/
abbrev Listed := List (Bool × List Token × Bool)

/-- Items with commas between them. The last one has a comma behind it if it had one before. -/
def joinListed : Listed → List Token
  | [] => []
  | [(_, tokens, comma)] => tokens ++ (if comma then Token.operator [','] else [])
  | (_, tokens, _) :: rest => tokens ++ Token.operator [','] ++ joinListed rest

/-- A list in angle brackets, with lifetimes before other items. A comma is added where the former
last item gets one behind it. -/
def angleList (items : Listed) : List Token :=
  Token.operator ['<'] ++ joinListed (items.filter (·.1) ++ items.filter (!·.1)) ++
    Token.operator ['>']

mutual

/-- The tokens of a type. -/
def TypeSyntax.tokens : TypeSyntax → List Token
  | .path p => p.tokens
  | .unit => [.parens []]
  | .paren inner => [.parens inner.tokens]
  | .lone inParens bound => if inParens then [.parens bound] else bound
  | .other tokens => tokens

/-- The tokens of a path. -/
def PathSyntax.tokens : PathSyntax → List Token
  | .mk absolute [] => if absolute then Token.operator [':', ':'] else []
  | .mk absolute (s :: rest) =>
    (if absolute then Token.operator [':', ':'] else []) ++ s.tokens ++ segmentTokens rest

/-- The tokens of the segments after the first. -/
def segmentTokens : List SegmentSyntax → List Token
  | [] => []
  | s :: rest => Token.operator [':', ':'] ++ s.tokens ++ segmentTokens rest

/-- The tokens of a segment. -/
def SegmentSyntax.tokens : SegmentSyntax → List Token
  | .mk name arguments => .word name :: arguments.tokens

/-- The tokens of the arguments of a segment. -/
def ArgumentsSyntax.tokens : ArgumentsSyntax → List Token
  | .none => []
  | .angle colons items =>
    (if colons then Token.operator [':', ':'] else []) ++ angleList (argumentTokens items)
  | .function tokens => tokens

/-- The arguments as items of a list. -/
def argumentTokens : List ArgumentSyntax → Listed
  | [] => []
  | .lifetime name comma :: rest => (true, Token.lifetime name, comma) :: argumentTokens rest
  | .type t comma :: rest => (false, t.tokens, comma) :: argumentTokens rest
  | .constant tokens comma :: rest => (false, tokens, comma) :: argumentTokens rest
  | .associated tokens comma :: rest => (false, tokens, comma) :: argumentTokens rest

end

/-- Whether no segment of the path has arguments. -/
def PathSyntax.isPlain (p : PathSyntax) : Bool :=
  p.segments.all fun s => match s.arguments with
    | .none => true
    | _ => false

/-- The name that a path spells, without arguments. -/
def PathSyntax.name (p : PathSyntax) : String :=
  (if p.absolute then "::" else "") ++ "::".intercalate (p.segments.map SegmentSyntax.name)

/-- Whether a segment is written without arguments, or with empty angle brackets. -/
def SegmentSyntax.isBare (s : SegmentSyntax) : Bool :=
  match s.arguments with
  | .none => true
  | .angle _ [] => true
  | _ => false

/-- The path with other arguments in its last segment. -/
def PathSyntax.withArguments (p : PathSyntax) (arguments : ArgumentsSyntax) : PathSyntax :=
  match p.segments.getLast? with
  | some s => .mk p.absolute (p.segments.dropLast ++ [.mk s.name arguments])
  | none => p

/-- A bound of a type. -/
inductive BoundSyntax where
  /-- A type, perhaps in parentheses or modified. -/
  | type (path : PathSyntax) (tokens : List Token)
  | lifetime (name : String)
  /-- The names that a type captures. -/
  | captures (tokens : List Token)
  /-- A bound that holds in constant code, kept as it is. -/
  | constant (tokens : List Token)

/-- The tokens of a bound. -/
def BoundSyntax.tokens : BoundSyntax → List Token
  | .type _ tokens => tokens
  | .lifetime name => Token.lifetime name
  | .captures tokens => tokens
  | .constant tokens => tokens

/-- Whether the bound names a type. -/
def BoundSyntax.namesType : BoundSyntax → Bool
  | .type .. => true
  | .constant _ => true
  | _ => false

/-- Where a bound stands decides which forms it may have. -/
structure BoundPlace where
  captures : Bool
  constants : Bool

/-- The forms of patterns that decide where they may stand. -/
inductive PatternForm where
  /-- A range without a beginning or without an end. -/
  | openRange
  /-- A pattern that is kept as it is. -/
  | raw
  | other
  deriving Repr, DecidableEq

/-- A pattern: its form and its tokens. -/
structure PatternSyntax where
  form : PatternForm
  tokens : List Token

/-- How tightly the operator of an expression binds, from the loosest on. -/
inductive Precedence where
  | lowest | assign | range | or | and | binding | compare | bitOr | bitXor | bitAnd | shift | sum
  | product | cast
  deriving Repr, DecidableEq

/-- The place of a precedence in the order. -/
def Precedence.rank (p : Precedence) : Nat := p.ctorIdx

/-- The forms of expressions that decide what may follow them. -/
inductive ExpressionForm where
  /-- A path, without a type in front of it. -/
  | path (path : PathSyntax)
  | literal
  /-- Two operands that are compared. -/
  | comparison
  /-- A range, with whether its end is given. -/
  | range (bounded : Bool)
  /-- A block, or a form that ends in one and makes a statement of its own. -/
  | block
  /-- A macro with its arguments in braces. -/
  | bracedCall
  /-- An expression that is kept as it is. -/
  | raw
  | other
  deriving Inhabited

/-- An expression: its form, its tokens, and whether its leftmost operand is kept as it is. -/
structure ExpressionSyntax where
  form : ExpressionForm
  tokens : List Token
  startsRaw : Bool

end TypedPrefs.Code
