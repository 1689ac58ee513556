import TypedPrefs.Code.Token
import TypedPrefs.Code.Literal

/-!
# Reading tokens

Text becomes tokens in two steps: first a row of lexemes, in which brackets stand by themselves, and
then the trees that the brackets form. Comments count as blanks, except documentation comments,
which become attributes.

The tokens are those of the fallback lexer of `proc_macro2`.
-/

namespace TypedPrefs.Code

open Text

/-- A token outside of its tree, or a bracket. -/
inductive Lexeme where
  | token (token : Token)
  | opening (delimiter : Delimiter)
  | closing (delimiter : Delimiter)

namespace Lexer

/-- Whether a character separates tokens. Marks of writing direction do. -/
def isSpace (c : Char) : Bool := isBlank c || c == '\u200e' || c == '\u200f'

/-- The rest of a line and what follows, which begins with the line feed. -/
def restOfLine : List Char → List Char × List Char
  | [] => ([], [])
  | '\n' :: rest => ([], '\n' :: rest)
  | '\r' :: '\n' :: rest => ([], '\n' :: rest)
  | c :: rest => let (line, after) := restOfLine rest; (c :: line, after)

/-- A comment between `/*` and `*/`, which may hold others, and what follows it. `depth` comments
are open. -/
def blockComment (depth : Nat) : List Char → Option (List Char × List Char)
  | [] => none
  | '/' :: '*' :: rest =>
    (blockComment (depth + 1) rest).map fun (text, after) => ('/' :: '*' :: text, after)
  | '*' :: '/' :: rest =>
    if depth ≤ 1 then some (['*', '/'], rest)
    else (blockComment (depth - 1) rest).map fun (text, after) => ('*' :: '/' :: text, after)
  | c :: rest => (blockComment depth rest).map fun (text, after) => (c :: text, after)

/-- Whether a carriage return stands without a line feed behind it. -/
def hasBareReturn : List Char → Bool
  | [] => false
  | '\r' :: '\n' :: rest => hasBareReturn rest
  | c :: rest => c == '\r' || hasBareReturn rest

/-- A comment at the beginning of the text: its documentation, whether that is about the item around
it, and what follows. A comment that is no documentation has none. -/
def comment? (s : List Char) : Option (Option (Bool × List Char) × List Char) :=
  match s with
  | '/' :: '/' :: '!' :: rest =>
    let (line, after) := restOfLine rest
    some (some (true, line), after)
  | '/' :: '/' :: '/' :: '/' :: rest => some (none, (restOfLine rest).2)
  | '/' :: '/' :: '/' :: rest =>
    let (line, after) := restOfLine rest
    some (some (false, line), after)
  | '/' :: '/' :: rest => some (none, (restOfLine rest).2)
  | '/' :: '*' :: '*' :: '/' :: rest => some (none, rest)
  | '/' :: '*' :: '!' :: _ => documented true
  | '/' :: '*' :: '*' :: '*' :: _ => (blockComment 0 s).map fun (_, after) => (none, after)
  | '/' :: '*' :: '*' :: _ => documented false
  | '/' :: '*' :: _ => (blockComment 0 s).map fun (_, after) => (none, after)
  | _ => none
where
  /-- A block comment with documentation: the text between its first three characters and its last
  two. -/
  documented (inner : Bool) : Option (Option (Bool × List Char) × List Char) :=
    (blockComment 0 s).map fun (text, after) =>
      (some (inner, (text.drop 3).take (text.length - 5)), after)

/-- The attribute that a documentation comment stands for. -/
def docLexemes (inner : Bool) (text : List Char) : List Lexeme :=
  [.token (.mark '#' false)] ++ (if inner then [.token (.mark '!' false)] else []) ++
    [.opening .bracket, .token (.word "doc"), .token (.mark '=' false),
      .token (.string (String.ofList text)), .closing .bracket]

/-- Whether a character is a mark by itself. -/
def isMark (c : Char) : Bool := "~!@#$%^&*-=+|;:,<.>/?'".toList.contains c

/-- Whether a mark begins here. A slash that begins a comment is none. -/
def beginsMark : List Char → Bool
  | '/' :: '/' :: _ => false
  | '/' :: '*' :: _ => false
  | c :: _ => isMark c
  | [] => false

/-- The characters of a name and what follows them. -/
def name? : List Char → Option (List Char × List Char)
  | [] => none
  | c :: rest =>
    if isNameStart c then some (c :: rest.takeWhile isNamePart, rest.dropWhile isNamePart) else none

/-- A mark and what follows it. An apostrophe is one only before a name that is not the text of a
character literal. -/
def mark? (s : List Char) : Option (Token × List Char) :=
  match s with
  | '\'' :: rest =>
    let (isRaw, bare) := match rest with
      | 'r' :: '#' :: more => (true, more)
      | _ => (false, rest)
    match name? bare with
    | none => none
    | some (name, after) =>
      if isRaw && ["_", "super", "self", "Self", "crate"].contains (String.ofList name) then none
      else if after.head? == some '\'' then none
      else if after.head? == some '#' && !isRaw then none
      else some (.mark '\'' true, rest)
  | c :: rest => if beginsMark s then some (.mark c (beginsMark rest), rest) else none
  | [] => none

/-- The beginnings of string and character literals with a letter in front, which no name has. -/
def literalBeginnings : List (List Char) :=
  [['r', '"'], ['r', '#', '"'], ['r', '#', '#'], ['b', '"'], ['b', '\''], ['b', 'r', '"'],
    ['b', 'r', '#'], ['c', '"'], ['c', 'r', '"'], ['c', 'r', '#']]

/-- A word and what follows it. A raw identifier keeps its mark; the words for paths have no raw
form. -/
def word? (s : List Char) : Option (Token × List Char) :=
  if literalBeginnings.any (·.isPrefixOf s) then none
  else
    match s with
    | 'r' :: '#' :: rest =>
      match name? rest with
      | some (name, after) =>
        if ["_", "super", "self", "Self", "crate"].contains (String.ofList name) then none
        else some (.word (String.ofList ('r' :: '#' :: name)), after)
      | none => none
    | _ => (name? s).map fun (name, after) => (.word (String.ofList name), after)

/-- The token that begins here and what follows it. -/
def token? (s : List Char) : Option (Token × List Char) :=
  match Literal.after? s with
  | some rest => some (.literal (String.ofList (s.take (s.length - rest.length))), rest)
  | none =>
    match mark? s with
    | some found => some found
    | none => word? s

/-- The lexemes of a text. Each step uses up at least one character, so `fuel` need not exceed the
length by more than one. -/
def lexemes? : Nat → List Char → Option (List Lexeme)
  | 0, _ => none
  | _, [] => some []
  | fuel + 1, c :: rest =>
    if isSpace c then lexemes? fuel rest
    else
      match comment? (c :: rest) with
      | some (none, after) => lexemes? fuel after
      | some (some (inner, text), after) =>
        if hasBareReturn text then none
        else (lexemes? fuel after).map (docLexemes inner text ++ ·)
      | none =>
        let bracket (l : Lexeme) := (lexemes? fuel rest).map (l :: ·)
        match c with
        | '(' => bracket (.opening .paren)
        | '[' => bracket (.opening .bracket)
        | '\x7b' => bracket (.opening .brace)
        | ')' => bracket (.closing .paren)
        | ']' => bracket (.closing .bracket)
        | '\x7d' => bracket (.closing .brace)
        | _ =>
          match token? (c :: rest) with
          | some (t, after) => (lexemes? fuel after).map (.token t :: ·)
          | none => none

/-- The trees of a row of lexemes. `open` holds the brackets that are open, innermost first, each
with the tokens before it, and `done` the tokens since the last of them; both lists of tokens are
reversed. -/
def trees? : List (Delimiter × List Token) → List Token → List Lexeme → Option (List Token)
  | [], done, [] => some done.reverse
  | _ :: _, _, [] => none
  | pending, done, .token t :: rest => trees? pending (t :: done) rest
  | pending, done, .opening d :: rest => trees? ((d, done) :: pending) [] rest
  | [], _, .closing _ :: _ => none
  | (e, before) :: pending, done, .closing d :: rest =>
    if d = e then trees? pending (.group d done.reverse :: before) rest else none

end Lexer

/-- The tokens of a text, if it is well formed and its brackets match. A byte order mark at its
beginning is skipped. -/
def tokens? (s : String) : Option (List Token) :=
  let chars := match s.toList with
    | '\ufeff' :: rest => rest
    | chars => chars
  (Lexer.lexemes? (chars.length + 1) chars).bind (Lexer.trees? [] [])

end TypedPrefs.Code
