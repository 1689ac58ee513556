import TypedPrefs.Text.Character

/-!
# Literals of code

Readers for the literals of the generated language. Each takes the characters from the literal's
first one on and gives what follows it, or nothing if no such literal begins there. `stringValue?`
gives the text that a string literal stands for.
-/

namespace TypedPrefs.Code.Literal

open Text

/-- What a string literal may hold. -/
inductive StringKind where
  /-- Text: any character. -/
  | text
  /-- Bytes: ASCII characters and escapes of single bytes. -/
  | bytes
  /-- Text without a null character. -/
  | nullFree
  deriving DecidableEq

/-- The value of a hexadecimal digit. -/
def hexValue? (c : Char) : Option Nat :=
  if '0' ≤ c && c ≤ '9' then some (c.toNat - 48)
  else if 'a' ≤ c && c ≤ 'f' then some (c.toNat - 87)
  else if 'A' ≤ c && c ≤ 'F' then some (c.toNat - 55)
  else none

/-- The code point written by two hexadecimal digits after a backslash and an `x`, if a literal of
this kind may hold it. -/
def byteEscape? (kind : StringKind) (a b : Char) : Option Nat := do
  let value := 16 * (← hexValue? a) + (← hexValue? b)
  match kind with
  | .text => if value < 128 then some value else none
  | .bytes => some value
  | .nullFree => if value = 0 then none else some value

/-- The digits, underscores and closing brace of an escape by code point. At most six digits are
allowed, and at least one before an underscore or the brace. -/
def bracedValue? (value count : Nat) : List Char → Option (Nat × List Char)
  | [] => none
  | c :: rest =>
    match hexValue? c with
    | some digit => if count = 6 then none else bracedValue? (16 * value + digit) (count + 1) rest
    | none =>
      if count = 0 then none
      else if c = '_' then bracedValue? value count rest
      else if c = '\x7d' && value.isValidChar then some (value, rest)
      else none

/-- An escape by code point, from its opening brace on. -/
def codePoint? : List Char → Option (Nat × List Char)
  | '\x7b' :: rest => bracedValue? 0 0 rest
  | _ => none

/-- What follows the blanks after a backslash at the end of a line. A carriage return among them
must stand before a line feed. -/
def afterLineBreak? : List Char → Option (List Char)
  | [] => none
  | '\r' :: '\n' :: rest => afterLineBreak? rest
  | c :: rest =>
    if c = '\r' then none
    else if c = ' ' || c = '\t' || c = '\n' then afterLineBreak? rest
    else some (c :: rest)

/-- The character of a short escape. -/
def shortEscape? (kind : StringKind) (c : Char) : Option Char :=
  if c = 'n' then some '\n'
  else if c = 'r' then some '\r'
  else if c = 't' then some '\t'
  else if c = '\\' || c = '\'' || c = '"' then some c
  else if c = '0' && kind != .nullFree then some '\x00'
  else none

/-- The value of a string literal from behind its opening quote on, and what follows its closing
quote. -/
def cooked? (kind : StringKind) : Nat → List Char → Option (List Char × List Char)
  | 0, _ => none
  | fuel + 1, s =>
    let put (c : Char) (rest : List Char) := (cooked? kind fuel rest).map fun (v, r) => (c :: v, r)
    match s with
    | [] => none
    | '"' :: rest => some ([], rest)
    | '\r' :: '\n' :: rest => put '\n' rest
    | '\r' :: _ => none
    | '\\' :: 'x' :: a :: b :: rest => do put (Char.ofNat (← byteEscape? kind a b)) rest
    | '\\' :: 'u' :: rest =>
      match codePoint? rest with
      | some (value, rest) =>
        if kind = .bytes || (kind = .nullFree && value = 0) then none
        else put (Char.ofNat value) rest
      | none => none
    | '\\' :: '\n' :: rest => do cooked? kind fuel (← afterLineBreak? rest)
    | '\\' :: '\r' :: '\n' :: rest => do cooked? kind fuel (← afterLineBreak? rest)
    | '\\' :: c :: rest => do put (← shortEscape? kind c) rest
    | ['\\'] => none
    | c :: rest =>
      if (kind = .bytes && 128 ≤ c.toNat) || (kind = .nullFree && c = '\x00') then none
      else put c rest

/-- The value of a raw string literal from behind its opening quote on. It ends at a quote with
`hashes` number signs behind it. -/
def raw? (kind : StringKind) (hashes : Nat) : List Char → Option (List Char × List Char)
  | [] => none
  | c :: rest =>
    let closing := List.replicate hashes '#'
    if c = '"' && closing.isPrefixOf rest then some ([], rest.drop hashes)
    else if c = '\r' && rest.head? != some '\n' then none
    else if (kind = .bytes && 128 ≤ c.toNat) || (kind = .nullFree && c = '\x00') then none
    else
      (raw? kind hashes rest).map fun (v, r) => (if c = '\r' then v else c :: v, r)

/-- A raw string literal from behind its letters on: number signs, at most 255, a quote and the
text. -/
def hashed? (kind : StringKind) (s : List Char) : Option (List Char × List Char) :=
  let hashes := (s.takeWhile (· == '#')).length
  if 255 < hashes then none
  else
    match s.drop hashes with
    | '"' :: rest => raw? kind hashes rest
    | _ => none

/-- A string literal of any kind: its kind, its value and what follows it. -/
def string? (s : List Char) : Option (StringKind × List Char × List Char) :=
  let fuel := s.length
  match s with
  | '"' :: rest => (cooked? .text fuel rest).map (.text, ·)
  | 'r' :: rest => (hashed? .text rest).map (.text, ·)
  | 'b' :: '"' :: rest => (cooked? .bytes fuel rest).map (.bytes, ·)
  | 'b' :: 'r' :: rest => (hashed? .bytes rest).map (.bytes, ·)
  | 'c' :: '"' :: rest => (cooked? .nullFree fuel rest).map (.nullFree, ·)
  | 'c' :: 'r' :: rest => (hashed? .nullFree rest).map (.nullFree, ·)
  | _ => none

/-- What follows the characters of a name, which may be none. -/
def afterName : List Char → List Char
  | [] => []
  | c :: rest => if isNameStart c then rest.dropWhile isNamePart else c :: rest

/-- What follows a character in single quotes, from behind the opening quote on. -/
def afterCharacter? (kind : StringKind) (s : List Char) : Option (List Char) :=
  let rest :=
    match s with
    | '\\' :: 'x' :: a :: b :: rest => (byteEscape? kind a b).map fun _ => rest
    | '\\' :: 'u' :: rest => if kind = .bytes then none else (codePoint? rest).map Prod.snd
    | '\\' :: c :: rest => (shortEscape? kind c).map fun _ => rest
    | ['\\'] => none
    | c :: rest => if kind = .bytes && 128 ≤ c.toNat then none else some rest
    | [] => none
  match rest with
  | some ('\'' :: rest) => some rest
  | _ => none

/-- Digits and underscores. -/
def afterDigits (s : List Char) : List Char := s.dropWhile fun c => c.isDigit || c == '_'

/-- What follows the exponent of a number, from behind its letter on: an optional sign, and digits
and underscores with at least one digit. Underscores may stand before the sign. -/
def afterExponent? (s : List Char) : Option (List Char) :=
  let s := s.dropWhile (· == '_')
  let s := match s with
    | c :: rest => if c = '+' || c = '-' then rest else s
    | [] => []
  let body := s.takeWhile fun c => c.isDigit || c == '_'
  if body.any Char.isDigit then some (s.drop body.length) else none

/-- What follows the digits of a number with a fraction or an exponent. A point before a name or a
second point is no part of a number. -/
def afterFraction? (s : List Char) : Option (List Char) :=
  match s with
  | [] => none
  | d :: _ =>
    if !d.isDigit then none
    else
      let rest := afterDigits s
      match rest with
      | '.' :: more =>
        if more.head?.any fun c => c == '.' || isNameStart c then none
        else
          let tail := afterDigits more
          match tail with
          | c :: exponent =>
            if c = 'e' || c = 'E' then some ((afterExponent? exponent).getD tail) else some tail
          | [] => some tail
      | c :: exponent => if c = 'e' || c = 'E' then afterExponent? exponent else none
      | [] => none

/-- What follows the digits of a whole number in base `base`; there must be one. A decimal number
does not begin with an underscore, and a digit beyond the base is an error. -/
def afterWhole? (base : Nat) (seen : Bool) : List Char → Option (List Char)
  | [] => if seen then some [] else none
  | c :: rest =>
    if c = '_' then if !seen && base = 10 then none else afterWhole? base seen rest
    else
      match hexValue? c with
      | some digit =>
        if digit < base then afterWhole? base true rest
        else if c.isDigit then none
        else if seen then some (c :: rest) else none
      | none => if seen then some (c :: rest) else none

/-- What follows a whole number. -/
def afterInteger? (s : List Char) : Option (List Char) :=
  match s with
  | '0' :: 'x' :: rest => afterWhole? 16 false rest
  | '0' :: 'o' :: rest => afterWhole? 8 false rest
  | '0' :: 'b' :: rest => afterWhole? 2 false rest
  | _ => afterWhole? 10 false s

/-- What follows the suffix of a number, which must not run into a name. -/
def afterNumberSuffix? (s : List Char) : Option (List Char) :=
  let rest := afterName s
  if rest.head?.any isNamePart then none else some rest

/-- What follows the literal that begins here, its suffix included. -/
def after? (s : List Char) : Option (List Char) :=
  match string? s with
  | some (_, _, rest) => some (afterName rest)
  | none =>
    let character := match s with
      | 'b' :: '\'' :: rest => afterCharacter? .bytes rest
      | '\'' :: rest => afterCharacter? .text rest
      | _ => none
    match character with
    | some rest => some (afterName rest)
    | none =>
      match (afterFraction? s).bind afterNumberSuffix? with
      | some rest => some rest
      | none => (afterInteger? s).bind afterNumberSuffix?

/-- Whether something follows the text of a string literal. -/
def hasSuffix (literal : String) : Bool := (string? literal.toList).any (!·.2.2.isEmpty)

/-- The number of 32 bits that a whole number without a suffix stands for. -/
def index? (literal : String) : Option Nat := do
  let (base, digits) := match literal.toList with
    | '0' :: 'x' :: rest => (16, rest)
    | '0' :: 'o' :: rest => (8, rest)
    | '0' :: 'b' :: rest => (2, rest)
    | digits => (10, digits)
  let values ← (digits.filter (· != '_')).mapM hexValue?
  let value := values.foldl (fun n d => base * n + d) 0
  if values.isEmpty || values.any (base ≤ ·) || Nat.pow 2 32 ≤ value then none else some value

/-- The text that a string literal stands for. -/
def stringValue? (literal : String) : Option String :=
  match string? literal.toList with
  | some (.text, value, _) => some (String.ofList value)
  | _ => none

end TypedPrefs.Code.Literal
