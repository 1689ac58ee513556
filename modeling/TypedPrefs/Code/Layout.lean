import TypedPrefs.Code.Token

/-!
# Code on lines

Tokens in a row are hard to read. A formatter makes them the text of a file, and may find that they
are none. The one that is defined here only lays them out: each item, statement and field has a line
of its own, and what stands in braces is indented. The tokens are the same and so is their order.

The generator formats with `format_tokens`, which gives the tokens to `syn` and `prettyplease`:
neither is modelled, and `Formatter` stands for both.
-/

namespace TypedPrefs.Code.Token

/-- A new line at a depth of indentation. -/
def newline (depth : Nat) : String := "\n" ++ String.ofList (List.replicate (4 * depth) ' ')

/-- Whether a line ends after a token if more tokens follow. -/
def endsLine : Token → Bool
  | .mark ';' _ => true
  | .mark ',' _ => true
  | .group .brace _ => true
  | _ => false

mutual

/-- The text of one token at a depth. -/
def layout (depth : Nat) : Token → String
  | .group .brace (t :: ts) =>
    "\x7b" ++ newline (depth + 1) ++ layoutLines (depth + 1) (t :: ts) ++ newline depth ++ "\x7d"
  | .group .brace [] => "\x7b\x7d"
  | .group .paren inner => "(" ++ textOf inner ++ ")"
  | .group .bracket inner => "[" ++ textOf inner ++ "]"
  | .mark c _ => String.singleton c
  | .word s => s
  | .literal s => s

/-- The text of tokens in a row at a depth. -/
def layoutLines (depth : Nat) : List Token → String
  | [] => ""
  | [t] => layout depth t
  | .mark c true :: rest => String.singleton c ++ layoutLines depth rest
  | .mark '#' false :: .group .bracket inner :: rest =>
    "#[" ++ textOf inner ++ "]" ++ newline depth ++ layoutLines depth rest
  | t :: rest =>
    layout depth t ++ (if endsLine t then newline depth else " ") ++ layoutLines depth rest

end

end TypedPrefs.Code.Token

namespace TypedPrefs.Code

/-- A formatter of code. -/
class Formatter where
  /-- What the language of the code is called. -/
  language : String
  /-- The text of the file with these tokens, or in which words they are refused. -/
  format : List Token → Except String String

/-- The formatter that lays tokens out and refuses none. -/
@[reducible] def Formatter.onLines : Formatter where
  language := "code"
  format ts := .ok (Token.layoutLines 0 ts ++ "\n")

end TypedPrefs.Code
