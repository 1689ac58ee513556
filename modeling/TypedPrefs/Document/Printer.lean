import TypedPrefs.Document.Value
import TypedPrefs.Number.Layout

/-!
# Values on one line

A value as a message shows it: tables between braces, and strings in the plainest of the five forms
that can hold them.

The forms are those in which `toml` displays a value.
-/

namespace TypedPrefs.Document

namespace Printer

/-- Whether a character cannot be seen in a string: a control character other than the tab and the
line feed. -/
def isHidden (c : Char) : Bool := (c < ' ' && c ≠ '\t' && c ≠ '\n') || c = '\x7f'

/-- The length of the longest row of a character; `now` of them precede. -/
def longestRow (q : Char) (now : Nat) : List Char → Nat
  | [] => now
  | c :: rest => if c = q then longestRow q (now + 1) rest else max now (longestRow q 0 rest)

/-- An escape by code point with four digits. -/
def codeEscape (c : Char) : List Char :=
  let digits := (Nat.toDigits 16 c.toNat).map Char.toUpper
  ['\\', 'u'] ++ List.replicate (4 - digits.length) '0' ++ digits

/-- How a character is written between double quotes on one line. -/
def encodeChar (c : Char) : List Char :=
  if c = '\x08' then ['\\', 'b']
  else if c = '\t' then ['\\', 't']
  else if c = '\n' then ['\\', 'n']
  else if c = '\x0c' then ['\\', 'f']
  else if c = '\r' then ['\\', 'r']
  else if c = '"' then ['\\', '"']
  else if c = '\\' then ['\\', '\\']
  else if isHidden c then codeEscape c
  else [c]

/-- How characters are written between three double quotes. Line feeds stay, and so do quotes,
except that of three in a row the last one is escaped. `row` of them precede. -/
def encodeLines (row : Nat) : List Char → List Char
  | [] => []
  | c :: rest =>
    if c = '"' then
      if row = 2 then ['\\', '"'] ++ encodeLines 0 rest else '"' :: encodeLines (row + 1) rest
    else if c = '\n' then '\n' :: encodeLines 0 rest
    else encodeChar c ++ encodeLines 0 rest

/-- A string in quotes. -/
def stringChars (s : List Char) : List Char :=
  let hidden := s.any isHidden
  let lineFeed := s.contains '\n'
  let opening := if lineFeed then ['\n'] else []
  let quotes := ['"', '"', '"']
  let apostrophes := ['\'', '\'', '\'']
  if !hidden && !lineFeed && !s.contains '\\' && !s.contains '"' then
    ['"'] ++ s.flatMap encodeChar ++ ['"']
  else if !hidden && !lineFeed && !s.contains '\'' then ['\''] ++ s ++ ['\'']
  else if !hidden && !s.contains '\\' && longestRow '"' 0 s < 3 then
    quotes ++ opening ++ encodeLines 0 s ++ quotes
  else if !hidden && longestRow '\'' 0 s < 3 then apostrophes ++ opening ++ s ++ apostrophes
  else if lineFeed then quotes ++ opening ++ encodeLines 0 s ++ quotes
  else ['"'] ++ s.flatMap encodeChar ++ ['"']

/-- Whether a character may stand in a key without quotes. -/
def isBareKeyChar (c : Char) : Bool := c.isAlphanum || c = '-' || c = '_'

/-- A key, in quotes if need be. -/
def keyChars (s : List Char) : List Char :=
  let hidden := s.any isHidden || s.contains '\n'
  if !s.isEmpty && s.all isBareKeyChar then s
  else if !hidden && !s.contains '\\' && !s.contains '"' then ['"'] ++ s.flatMap encodeChar ++ ['"']
  else if !hidden && !s.contains '\'' then ['\''] ++ s ++ ['\'']
  else ['"'] ++ s.flatMap encodeChar ++ ['"']

end Printer

namespace Value

mutual

/-- The value on one line. -/
def inlineChars : Value → List Char
  | .string s => Printer.stringChars s.toList
  | .integer i => (toString i).toList
  | .float x => x.asValue.toList
  | .hugeFloat => ['i', 'n', 'f']
  | .boolean b => (toString b).toList
  | .datetime t => t.text.toList
  | .array items => ['['] ++ itemChars [] items ++ [']']
  | .table [] => ['\x7b', '\x7d']
  | .table (e :: rest) => ['\x7b', ' '] ++ entryChars [] (e :: rest) ++ [' ', '\x7d']

/-- Values with commas between them; `separator` stands before the first one. -/
def itemChars (separator : List Char) : List Value → List Char
  | [] => []
  | v :: rest => separator ++ inlineChars v ++ itemChars [',', ' '] rest

/-- Entries with commas between them; `separator` stands before the first one. -/
def entryChars (separator : List Char) : List (String × Value) → List Char
  | [] => []
  | (key, v) :: rest =>
    separator ++ Printer.keyChars key.toList ++ [' ', '=', ' '] ++ inlineChars v ++
      entryChars [',', ' '] rest

end

/-- The value on one line. -/
def text (v : Value) : String := String.ofList v.inlineChars

end Value

end TypedPrefs.Document
