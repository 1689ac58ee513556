import TypedPrefs.Text.Character

/-!
# Quoted text

Two ways to write text between quotation marks. `quote` is for documentation: it escapes quotation
marks, backslashes and control characters and copies all else. `literal` is for code: it also
escapes every character that would not be seen as itself.

`quote` is `escape_string_literal` of the generator's module `validate`. `literal` is what
`Literal::string` of `proc_macro2` writes.
-/

namespace TypedPrefs.Text

/-- The digits of a number in base 16, in lower case. -/
def hexDigits (n : Nat) : List Char := Nat.toDigits 16 n

/-- The escape that names a character by its code point. -/
def codePointEscape (c : Char) : List Char :=
  ['\\', 'u', '\x7b'] ++ hexDigits c.toNat ++ ['\x7d']

namespace Quoted

/-- How one character is written inside documentation quotes. -/
def encodeChar (c : Char) : List Char :=
  if c = '"' then ['\\', '"']
  else if c = '\\' then ['\\', '\\']
  else if c = '\n' then ['\\', 'n']
  else if c = '\r' then ['\\', 'r']
  else if c = '\t' then ['\\', 't']
  else if c = '\x00' then ['\\', '0']
  else if isControl c then codePointEscape c
  else [c]

/-- The text between documentation quotes. -/
def encode (s : List Char) : List Char := s.flatMap encodeChar

end Quoted

/-- Text as a string literal of documentation. -/
def quote (s : String) : String :=
  String.ofList (['"'] ++ Quoted.encode s.toList ++ ['"'])

namespace Literal

/-- How one character other than the null character is written inside a code literal. -/
def encodeChar (c : Char) : List Char :=
  if c = '"' then ['\\', '"']
  else if c = '\\' then ['\\', '\\']
  else if c = '\n' then ['\\', 'n']
  else if c = '\r' then ['\\', 'r']
  else if c = '\t' then ['\\', 't']
  else if isSelfStanding c then [c]
  else codePointEscape c

/-- The text between the quotes of a code literal. A null character directly before an octal digit
is written in hexadecimal, so that the digit is not read as part of the escape. -/
def encode : List Char → List Char
  | [] => []
  | c :: rest =>
    if c = '\x00' then
      match rest with
      | d :: _ => (if '0' ≤ d && d ≤ '7' then ['\\', 'x', '0', '0'] else ['\\', '0']) ++ encode rest
      | [] => ['\\', '0']
    else encodeChar c ++ encode rest

end Literal

/-- Text as a string literal of code. -/
def literal (s : String) : String :=
  String.ofList (['"'] ++ Literal.encode s.toList ++ ['"'])

/-- Text in quotation marks as it is quoted inside a message: like a code literal, but a null
character always has the short escape. -/
def quoteForMessage (s : String) : String :=
  let body := s.toList.flatMap fun c => if c = '\x00' then ['\\', '0'] else Literal.encodeChar c
  String.ofList (['"'] ++ body ++ ['"'])

end TypedPrefs.Text
