import TypedPrefs.Document.Quotation
import TypedPrefs.Document.Section

/-!
# Reading documents

A document is read line by line, except that a value may go on over several lines. Each reader takes
the characters from some place on and gives what it read with the characters behind it.

What is accepted is what `toml` accepts, and as what.
-/

namespace TypedPrefs.Document

/-- A reader gives what it read and the characters behind it. -/
abbrev Reader (α : Type) := List Char → Option (α × List Char)

namespace Reader

open Quotation

/-- What follows blanks. -/
def afterSpaces (s : List Char) : List Char := s.dropWhile isSpace

/-- What follows a comment, from behind its number sign on. The line feed stays. -/
def afterComment? : List Char → Option (List Char)
  | [] => some []
  | '\n' :: rest => some ('\n' :: rest)
  | '\r' :: '\n' :: rest => some ('\n' :: rest)
  | c :: rest => if isPlain c then afterComment? rest else none

/-- What follows blanks, line feeds and comments. -/
def afterFill? : Nat → List Char → Option (List Char)
  | 0, s => some s
  | fuel + 1, s =>
    match s with
    | '#' :: rest => (afterComment? rest).bind (afterFill? fuel)
    | '\r' :: '\n' :: rest => afterFill? fuel rest
    | c :: rest => if isSpace c || c = '\n' then afterFill? fuel rest else some (c :: rest)
    | [] => some []

/-- What follows all blanks, line feeds and comments. -/
def filled? (s : List Char) : Option (List Char) := afterFill? s.length s

/-- What follows the rest of a line: blanks, a comment and the line feed, unless the text ends. -/
def afterLine? (s : List Char) : Option (List Char) := do
  let rest ← match afterSpaces s with
    | '#' :: rest => afterComment? rest
    | s => some s
  if rest.isEmpty then some [] else afterLineFeed? rest

/-- Whether a character may stand in a key without quotes. -/
def isBareKeyChar (c : Char) : Bool := c.isAlphanum || c = '-' || c = '_'

/-- A key without dots. -/
def simpleKey? : Reader String := fun s =>
  match s with
  | [] => none
  | c :: _ =>
    if c = '"' || c = '\'' then line? s
    else
      let name := s.takeWhile isBareKeyChar
      if name.isEmpty then none else some (String.ofList name, s.drop name.length)

/-- A key of at most so many parts: its parts before the last dot, and the part behind it. -/
def keyOf? : Nat → Reader (List String × String)
  | 0, _ => none
  | count + 1, s => do
    let (part, rest) ← simpleKey? s
    match afterSpaces rest with
    | '.' :: more =>
      let ((path, key), rest) ← keyOf? count (afterSpaces more)
      some ((part :: path, key), rest)
    | rest => some (([], part), rest)

/-- How many parts a key may have, and how deep brackets may be nested. -/
def depthLimit : Nat := 80

/-- A key: its parts before the last dot, and the part behind it. -/
def key? : Reader (List String × String) := keyOf? depthLimit

/-- A key and a value with an equality sign between them. `gap` gives what follows the blanks on
either side of the sign. -/
def pair? (gap : List Char → Option (List Char)) (value : Reader Value) : Reader Line := fun s => do
  let ((path, key), rest) ← key? s
  match ← gap rest with
  | '=' :: rest =>
    let (v, rest) ← value (← gap rest)
    some (.pair path key v, rest)
  | _ => none

/-- Items with commas between them and perhaps behind them, up to the closing bracket. There may be
line feeds and comments around each. -/
def items? {α : Type} (closing : Char) (item : Reader α) : Nat → Reader (List α)
  | 0, _ => none
  | fuel + 1, s => do
    let s ← filled? s
    if s.head? = some closing then some ([], s.drop 1)
    else
      let (a, rest) ← item s
      match ← filled? rest with
      | c :: rest =>
        if c = closing then some ([a], rest)
        else if c = ',' then
          let (more, rest) ← items? closing item fuel rest
          some (a :: more, rest)
        else none
      | [] => none

/-- Whether a character may stand in a value without quotes or brackets. -/
def isWordChar (c : Char) : Bool :=
  c.isAlphanum || c = '_' || c = '+' || c = '-' || c = '.' || c = ':'

/-- The characters of a value without quotes or brackets. A date and a time may have a blank between
them. -/
def word (s : List Char) : List Char :=
  let first := s.takeWhile isWordChar
  match s.drop first.length with
  | ' ' :: d :: rest =>
    if d.isDigit && (Datetime.date? first).any (·.2.isEmpty) then
      first ++ ' ' :: (d :: rest).takeWhile isWordChar
    else first
  | _ => first

/-- A value, given a reader for values inside of it, or none if it is as deep as values may be. Line
feeds and comments may stand anywhere between brackets. -/
def valueStep (inner : Option (Reader Value)) : Reader Value := fun s =>
  match s with
  | [] => none
  | '[' :: rest => do
    let (vs, rest) ← items? ']' (← inner) rest.length rest
    some (.array vs, rest)
  | '\x7b' :: rest => do
    let (lines, rest) ← items? '\x7d' (pair? filled? (← inner)) rest.length rest
    some (.table (← ofLines? lines), rest)
  | c :: _ =>
    if c = '"' || c = '\'' then (string? s).map fun (t, rest) => (.string t, rest)
    else
      let w := word s
      (Numeral.value? w).map fun v => (v, s.drop w.length)

/-- A value with at most so many brackets around its innermost parts. -/
def value? : Nat → Reader Value
  | 0 => valueStep none
  | depth + 1 => valueStep (some (value? depth))

/-- The key of a header and the closing brackets behind it. -/
def headerKey? (closing : List Char) : Reader (List String × String) := fun s => do
  let (key, rest) ← key? (afterSpaces s)
  if closing.isPrefixOf rest then some (key, rest.drop closing.length) else none

/-- A header or a pair. -/
def line? : Reader Line := fun s =>
  match s with
  | '[' :: '[' :: rest =>
    (headerKey? [']', ']'] rest).map fun ((path, key), rest) => (.element path key, rest)
  | '[' :: rest => (headerKey? [']'] rest).map fun ((path, key), rest) => (.header path key, rest)
  | _ => pair? (fun s => some (afterSpaces s)) (value? depthLimit) s

/-- All lines. -/
def lines? : Nat → List Char → Option (List Line)
  | 0, _ => none
  | fuel + 1, s => do
    let s ← filled? s
    if s.isEmpty then some []
    else
      let (line, rest) ← line? s
      let rest ← afterLine? rest
      (lines? fuel rest).map (line :: ·)

end Reader

/-- The entries of the document that a text spells, if it is one. A byte order mark at the beginning
is skipped. -/
def parse? (source : String) : Option (List (String × Value)) :=
  let s := match source.toList with
    | '\ufeff' :: rest => rest
    | s => s
  (Reader.lines? (s.length + 1) s).bind ofLines?

end TypedPrefs.Document
