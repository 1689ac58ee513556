import TypedPrefs.Document.Numeral

/-!
# Strings of a document

Strings between single quotes are taken as they are; between double quotes a backslash begins an
escape. Three quotes instead of one allow for line feeds. Each reader takes the characters behind
the opening quotes.
-/

namespace TypedPrefs.Document.Quotation

/-- Whether a character may stand in a string or a comment: no control character but the tab. -/
def isPlain (c : Char) : Bool := c = '\t' || (' ' ≤ c && c ≠ '\x7f')

/-- The character with the code point that `n` hexadecimal digits spell. -/
def codePoint? (n : Nat) (s : List Char) : Option (Char × List Char) :=
  let digits := s.take n
  let value := Numeral.inBase 16 digits
  if digits.length = n && digits.all Numeral.isHexDigit && value.isValidChar then
    some (Char.ofNat value, s.drop n)
  else none

/-- The character that an escape stands for, from behind its backslash on. -/
def escape? : List Char → Option (Char × List Char)
  | [] => none
  | c :: rest =>
    match c with
    | 'b' => some ('\x08', rest)
    | 't' => some ('\t', rest)
    | 'n' => some ('\n', rest)
    | 'f' => some ('\x0c', rest)
    | 'r' => some ('\r', rest)
    | 'e' => some ('\x1b', rest)
    | '"' => some ('"', rest)
    | '\\' => some ('\\', rest)
    | 'x' => codePoint? 2 rest
    | 'u' => codePoint? 4 rest
    | 'U' => codePoint? 8 rest
    | _ => none

/-- What follows a line feed, with or without a carriage return in front of it. -/
def afterLineFeed? : List Char → Option (List Char)
  | '\n' :: rest => some rest
  | '\r' :: '\n' :: rest => some rest
  | _ => none

/-- Whether a character is a tab or a space. -/
def isSpace (c : Char) : Bool := c = ' ' || c = '\t'

/-- What follows blanks and line feeds. -/
def afterGap : List Char → List Char
  | '\r' :: '\n' :: rest => afterGap rest
  | c :: rest => if isSpace c || c = '\n' then afterGap rest else c :: rest
  | [] => []

/-- A string between double quotes. -/
def basic? : Nat → List Char → Option (List Char × List Char)
  | 0, _ => none
  | fuel + 1, s =>
    match s with
    | '"' :: rest => some ([], rest)
    | '\\' :: rest => do
      let (c, rest) ← escape? rest
      let (text, rest) ← basic? fuel rest
      some (c :: text, rest)
    | c :: rest =>
      if isPlain c then (basic? fuel rest).map fun (text, rest) => (c :: text, rest) else none
    | [] => none

/-- A string between single quotes. -/
def raw? : List Char → Option (List Char × List Char)
  | '\'' :: rest => some ([], rest)
  | c :: rest => if isPlain c then (raw? rest).map fun (text, rest) => (c :: text, rest) else none
  | [] => none

/-- The quotes at the beginning: as many as belong to the text, and what follows, if they end it.
The last three close the text, and at most two of them can stand before: a sixth is not part of the
string any more. -/
def closing? (quote : Char) (s : List Char) : Option (List Char × List Char) :=
  let quotes := (s.takeWhile (· == quote)).take 5
  if 3 ≤ quotes.length then some (quotes.drop 3, s.drop quotes.length) else none

/-- A string between three double quotes. A backslash at the end of a line stands for nothing,
together with the gap behind it. -/
def basicLines? : Nat → List Char → Option (List Char × List Char)
  | 0, _ => none
  | fuel + 1, s =>
    match closing? '"' s with
    | some found => some found
    | none =>
      match s with
      | '\\' :: rest =>
        match afterLineFeed? (rest.dropWhile isSpace) with
        | some rest => basicLines? fuel (afterGap rest)
        | none => do
          let (c, rest) ← escape? rest
          let (text, rest) ← basicLines? fuel rest
          some (c :: text, rest)
      | '\r' :: '\n' :: rest =>
        (basicLines? fuel rest).map fun (text, rest) => ('\r' :: '\n' :: text, rest)
      | c :: rest =>
        if isPlain c || c = '\n' then
          (basicLines? fuel rest).map fun (text, rest) => (c :: text, rest)
        else none
      | [] => none

/-- A string between three single quotes. -/
def rawLines? : Nat → List Char → Option (List Char × List Char)
  | 0, _ => none
  | fuel + 1, s =>
    match closing? '\'' s with
    | some found => some found
    | none =>
      match s with
      | '\r' :: '\n' :: rest =>
        (rawLines? fuel rest).map fun (text, rest) => ('\r' :: '\n' :: text, rest)
      | c :: rest =>
        if isPlain c || c = '\n' then
          (rawLines? fuel rest).map fun (text, rest) => (c :: text, rest)
        else none
      | [] => none

/-- The text without a line feed at its beginning. -/
def dropFirstLineFeed (s : List Char) : List Char := (afterLineFeed? s).getD s

/-- A string on one line, from its opening quote on. -/
def line? (s : List Char) : Option (String × List Char) :=
  let read := match s with
    | '"' :: rest => basic? s.length rest
    | '\'' :: rest => raw? rest
    | _ => none
  read.map fun (text, rest) => (String.ofList text, rest)

/-- A string of any form, from its opening quotes on. -/
def string? (s : List Char) : Option (String × List Char) :=
  match s with
  | '"' :: '"' :: '"' :: rest =>
    (basicLines? s.length (dropFirstLineFeed rest)).map fun (text, rest) =>
      (String.ofList text, rest)
  | '\'' :: '\'' :: '\'' :: rest =>
    (rawLines? s.length (dropFirstLineFeed rest)).map fun (text, rest) =>
      (String.ofList text, rest)
  | _ => line? s

end TypedPrefs.Document.Quotation
