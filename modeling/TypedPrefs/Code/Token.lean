import TypedPrefs.Text.Quoted
import TypedPrefs.Naming.Identifier

/-!
# Tokens of code

Code is read and written as trees of tokens. Written out, tokens have one space between them, except
that nothing stands between a joint mark and what follows: that is how operators of several
characters and lifetimes are kept together.
-/

namespace TypedPrefs.Code

/-- The brackets around a group of tokens. -/
inductive Delimiter where
  | paren | bracket | brace
  deriving Repr, DecidableEq

/-- A token, or a group of tokens in brackets. -/
inductive Token where
  /-- A keyword or an identifier. A raw identifier keeps its mark. -/
  | word (text : String)
  /-- A character of punctuation. A joint one belongs together with the token after it. -/
  | mark (char : Char) (joint : Bool)
  /-- A literal, as written. -/
  | literal (text : String)
  /-- Tokens in brackets. -/
  | group (delimiter : Delimiter) (inner : List Token)
  deriving Repr, Inhabited

namespace Token

mutual

/-- The text of one token. -/
def text : Token → String
  | .word s => s
  | .mark c _ => String.singleton c
  | .literal s => s
  | .group .paren inner => "(" ++ textOf inner ++ ")"
  | .group .bracket inner => "[" ++ textOf inner ++ "]"
  | .group .brace [] => "\x7b \x7d"
  | .group .brace (t :: ts) => "\x7b " ++ textOf (t :: ts) ++ " \x7d"

/-- The text of tokens in a row. -/
def textOf : List Token → String
  | [] => ""
  | [t] => text t
  | .mark c true :: rest => String.singleton c ++ textOf rest
  | t :: rest => text t ++ " " ++ textOf rest

end

mutual

/-- How many tokens there are in a token, itself included. -/
def weight : Token → Nat
  | .group _ inner => weightOf inner + 1
  | _ => 1

/-- How many tokens there are in a row and inside of its groups. -/
def weightOf : List Token → Nat
  | [] => 0
  | t :: ts => weight t + weightOf ts

end

/-- The marks of an operator: all but the last are joint. -/
def operator : List Char → List Token
  | [] => []
  | [c] => [.mark c false]
  | c :: rest => .mark c true :: operator rest

/-- A lifetime: a joint apostrophe and a name. -/
def lifetime (name : String) : List Token := [.mark '\'' true, .word name]

/-- A string literal with the given value. -/
def string (value : String) : Token := .literal (Text.literal value)

/-- Tokens in parentheses. -/
def parens (inner : List Token) : Token := .group .paren inner

/-- Tokens in square brackets. -/
def brackets (inner : List Token) : Token := .group .bracket inner

/-- Tokens in braces. -/
def braces (inner : List Token) : Token := .group .brace inner

/-- The tokens of one written word: a lifetime if it begins with an apostrophe, a name if it begins
as one, else an operator. -/
def ofWord (w : String) : List Token :=
  match w.toList with
  | [] => []
  | '\'' :: name => lifetime (String.ofList name)
  | c :: _ => if Text.isNameStart c then [.word w] else operator w.toList

/-- The tokens of fixed code without brackets and literals, written with a blank between tokens. -/
def code (s : String) : List Token := (Text.splitAtChar ' ' s).flatMap ofWord

end Token

end TypedPrefs.Code
