import TypedPrefs.Code.Reader
import TypedPrefs.Code.Syntax

/-!
# Code inside of code

Types, patterns, expressions and items hold one another. Their readers are steps that are given
readers for the code inside, and refer to no step of another kind.
-/

namespace TypedPrefs.Code

/-- Readers for the code inside of other code. -/
structure Nested where
  /-- A type. It may end in further bounds behind plus signs or not. -/
  type : Bool → Reader TypeSyntax
  /-- A bound of a type. -/
  bound : BoundPlace → Reader BoundSyntax
  /-- A pattern without alternatives. -/
  pattern : Reader PatternSyntax
  /-- An operand of an expression, with the signs in front of it and the calls behind it. Braces
  with fields may follow a path in it or not. -/
  operand : Bool → Reader ExpressionSyntax
  /-- What an operand becomes by the operators behind it, down to those of a precedence. -/
  extended : Bool → Precedence → ExpressionSyntax → Reader ExpressionSyntax
  /-- An expression as a statement or as the result of an arm, which the end of a block may end. -/
  early : Reader ExpressionSyntax
  /-- The statements of a block, up to the end. -/
  statements : Reader (List Token)
  /-- An item with its attributes. -/
  item : Reader (List Token)

namespace Grammar

/-- An expression. Braces with fields may follow a path in it or not. -/
def expression (r : Nested) (braces : Bool) : Reader ExpressionSyntax := do
  r.extended braces .lowest (← r.operand braces)

/-- The tokens of an expression. -/
def value (r : Nested) : Reader (List Token) := do return (← expression r true).tokens

/-- The tokens of an expression in front of a block. -/
def condition (r : Nested) : Reader (List Token) := do return (← expression r false).tokens

/-- The tokens of a type. -/
def written (r : Nested) (plus : Bool) : Reader (List Token) := do return (← r.type plus).tokens

/-- A type behind a colon. -/
def ascription (r : Nested) : Reader (List Token) := inRow [operator [':'], written r true]

/-- A value behind an equality sign. -/
def assigned (r : Nested) : Reader (List Token) := inRow [operator ['='], value r]

/-- The type of a result behind an arrow, if there is one. -/
def result (r : Nested) (plus : Bool) : Reader (List Token) :=
  whenAhead (begins ['-', '>']) (inRow [operator ['-', '>'], written r plus])

/-- A block. -/
def block (r : Nested) : Reader (List Token) := group .brace r.statements

end Grammar

end TypedPrefs.Code
