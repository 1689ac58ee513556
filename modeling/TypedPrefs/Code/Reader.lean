import TypedPrefs.Code.Lexer

/-!
# Readers

A reader takes tokens from the front of a row and gives what it read with the tokens behind it, or
nothing if the tokens have another form. Most readers give the tokens that they read as they are
written out again: operators and lifetimes close up, everything else apart.

What may follow is decided by looking at the next tokens, seldom at more than three of them.

The readers of this and the other modules of `Code` follow the parsers of `syn`, with its
`ParseBuffer` and `Lookahead1`.
-/

namespace TypedPrefs.Code

/-- A reader gives what it read and the tokens behind it. -/
abbrev Reader (α : Type) := StateT (List Token) Option α

namespace Grammar

/-! ## Looking ahead -/

/-- The words that are no identifiers. -/
def keywords : List String := Naming.reservedWords.filter (· != "gen")

/-- Whether a word is an identifier. -/
def isIdentifierWord (w : String) : Bool := !keywords.contains w

/-- The tokens behind the marks of an operator. Only its last mark may stand apart from what
follows. -/
def after? : List Char → List Token → Option (List Token)
  | [], ts => some ts
  | [c], .mark d _ :: rest => if c = d then some rest else none
  | c :: cs, .mark d joint :: rest => if c = d && joint then after? cs rest else none
  | _ :: _, _ => none

/-- Whether the tokens begin with an operator. -/
def begins (op : List Char) (ts : List Token) : Bool := (after? op ts).isSome

/-- Whether the tokens begin with one of the operators. -/
def beginsAny (ops : List (List Char)) (ts : List Token) : Bool := ops.any (begins · ts)

/-- Whether the tokens begin with one of the words. -/
def beginsAnyWord (ws : List String) : List Token → Bool
  | .word v :: _ => ws.contains v
  | _ => false

/-- Whether the tokens begin with a word. -/
def beginsWord (w : String) (ts : List Token) : Bool := beginsAnyWord [w] ts

/-- Whether the tokens begin with a word of any kind. -/
def beginsSomeWord : List Token → Bool
  | .word _ :: _ => true
  | _ => false

/-- Whether the tokens begin with an identifier. -/
def beginsIdentifier : List Token → Bool
  | .word v :: _ => isIdentifierWord v
  | _ => false

/-- The words that are parts of paths without being identifiers. -/
def pathWords : List String := ["super", "self", "Self", "crate"]

/-- Whether the tokens begin with an identifier or a word for paths. -/
def beginsPath (ts : List Token) : Bool := beginsIdentifier ts || beginsAnyWord pathWords ts

/-- Whether the tokens begin with a lifetime. -/
def beginsLifetime : List Token → Bool
  | .mark '\'' true :: .word _ :: _ => true
  | _ => false

/-- Whether the tokens begin with a group in these brackets. -/
def beginsGroup (d : Delimiter) : List Token → Bool
  | .group e _ :: _ => d = e
  | _ => false

/-- Whether the tokens begin with a literal: a token of that kind, a truth value, or a number behind
a minus sign. -/
def beginsLiteral : List Token → Bool
  | .literal _ :: _ => true
  | .word w :: _ => w = "true" || w = "false"
  | .mark '-' _ :: .literal s :: _ => s.toList.head?.any Char.isDigit
  | _ => false

/-- Whether the tokens begin with a literal for text. -/
def beginsText : List Token → Bool
  | .literal s :: _ => (Literal.stringValue? s).isSome
  | _ => false

/-- The tokens behind the first one. A lifetime counts as one token. -/
def behind : List Token → List Token
  | .mark '\'' true :: .word _ :: rest => rest
  | _ :: rest => rest
  | [] => []

/-- Whether a test holds behind the first token. -/
def second (test : List Token → Bool) (ts : List Token) : Bool := test (behind ts)

/-- Whether a test holds behind the first two tokens. -/
def third (test : List Token → Bool) (ts : List Token) : Bool := test (behind (behind ts))

/-- Whether a point and no second one begins here. -/
def beginsPoint (ts : List Token) : Bool := begins ['.'] ts && !begins ['.', '.'] ts

/-- Whether a colon and no second one begins here. -/
def beginsColon (ts : List Token) : Bool := begins [':'] ts && !begins [':', ':'] ts

/-- Whether an exclamation mark begins here that is no part of `!=`. -/
def beginsBang (ts : List Token) : Bool := begins ['!'] ts && !begins ['!', '='] ts

/-- Whether the reserved name for built-in syntax and a number sign begin here. -/
def beginsBuiltin (ts : List Token) : Bool := beginsWord "builtin" ts && second (begins ['#']) ts

/-! ## Single tokens -/

/-- An operator. -/
def operator (op : List Char) : Reader (List Token) := fun ts =>
  (after? op ts).map (Token.operator op, ·)

/-- An operator, if it is there. -/
def operatorIf (op : List Char) : Reader (List Token) := fun ts =>
  match after? op ts with
  | some rest => some (Token.operator op, rest)
  | none => some ([], ts)

/-- Any word. -/
def someWord : Reader String
  | .word w :: rest => some (w, rest)
  | _ => none

/-- A word. -/
def word (w : String) : Reader (List Token)
  | .word v :: rest => if v = w then some ([.word v], rest) else none
  | _ => none

/-- A word, if it is there. -/
def wordIf (w : String) : Reader (List Token) := fun ts =>
  match word w ts with
  | some found => some found
  | none => some ([], ts)

/-- An identifier. -/
def identifier : Reader String
  | .word w :: rest => if isIdentifierWord w then some (w, rest) else none
  | _ => none

/-- The token of an identifier. -/
def name : Reader (List Token) := do return [.word (← identifier)]

/-- The name of a lifetime. -/
def lifetimeName : Reader String
  | .mark '\'' true :: .word w :: rest => some (w, rest)
  | _ => none

/-- A lifetime. -/
def lifetime : Reader (List Token) := do return Token.lifetime (← lifetimeName)

/-- A literal. A number behind a minus sign makes one token with it. -/
def literal : Reader Token
  | .literal s :: rest => some (.literal s, rest)
  | .mark '-' _ :: .literal s :: rest =>
    if s.toList.head?.any Char.isDigit then some (.literal ("-" ++ s), rest) else none
  | .word w :: rest => if w = "true" || w = "false" then some (.word w, rest) else none
  | _ => none

/-- A group in any brackets, kept as it is. -/
def rawGroup : Reader (List Token)
  | .group d inner :: rest => some ([.group d inner], rest)
  | _ => none

/-! ## Combining readers -/

/-- What a reader reads, if that is all there is. -/
def whole? {α : Type} (read : Reader α) (ts : List Token) : Option α :=
  match read ts with
  | some (a, []) => some a
  | _ => none

/-- The content of a group in these brackets. -/
def inGroup {α : Type} (d : Delimiter) (read : Reader α) : Reader α
  | .group e inner :: rest => if d = e then (whole? read inner).map (·, rest) else none
  | _ => none

/-- A group in these brackets. -/
def group (d : Delimiter) (read : Reader (List Token)) : Reader (List Token) := do
  return [.group d (← inGroup d read)]

/-- The tokens that have been used up since those at the start. -/
def usedSince (start : List Token) : Reader (List Token) := fun ts =>
  some (start.take (start.length - ts.length), ts)

/-- The tokens that a reader uses up, kept as they are. -/
def verbatim {α : Type} (read : Reader α) : Reader (List Token) := do
  let start ← get
  let _ ← read
  usedSince start

/-- Whether a test holds of what comes next. -/
def ahead (test : List Token → Bool) : Reader Bool := do return test (← get)

/-- Fails unless a test holds of what comes next. -/
def expecting (test : List Token → Bool) : Reader Unit := do
  if test (← get) then pure () else failure

/-- Reads if a test holds of what comes next. -/
def whenAhead (test : List Token → Bool) (read : Reader (List Token)) : Reader (List Token) := do
  if test (← get) then read else return []

/-- Readers one after the other. -/
def inRow : List (Reader (List Token)) → Reader (List Token)
  | [] => return []
  | read :: rest => do return (← read) ++ (← inRow rest)

/-- The first reader whose test holds of what comes next. -/
def select {α : Type} : List ((List Token → Bool) × Reader α) → Reader α
  | [] => failure
  | (test, read) :: rest => do if test (← get) then read else select rest

/-- What a reader reads at most `fuel` times while a test holds of what comes next. -/
def manyWithin {α : Type} (test : List Token → Bool) (read : Reader α) : Nat → Reader (List α)
  | 0 => failure
  | fuel + 1 => do
    if test (← get) then return (← read) :: (← manyWithin test read fuel) else return []

/-- What a reader reads while a test holds of what comes next. Each time uses up a token. -/
def many {α : Type} (test : List Token → Bool) (read : Reader α) : Reader (List α) := do
  manyWithin test read ((← get).length + 1)

/-- The tokens that are read while a test holds of what comes next. -/
def repeatWhile (test : List Token → Bool) (read : Reader (List Token)) : Reader (List Token) := do
  return (← many test read).flatten

/-- The tokens that are read until nothing is left. -/
def repeatToEnd (read : Reader (List Token)) : Reader (List Token) := repeatWhile (!·.isEmpty) read

/-- At most `fuel` items with an operator between them and perhaps behind them. -/
def separatedWithin {α : Type} (op : List Char) (ends : List Token → Bool) (read : Reader α) :
    Nat → Reader (List (α × Bool))
  | 0 => failure
  | fuel + 1 => do
    if ends (← get) then return []
    let a ← read
    if begins op (← get) then
      let _ ← operator op
      return (a, true) :: (← separatedWithin op ends read fuel)
    return [(a, false)]

/-- Items with an operator between them, which may also stand behind the last one: each with whether
the operator follows it. No item begins where `ends` holds. -/
def separated {α : Type} (op : List Char) (ends : List Token → Bool) (read : Reader α) :
    Reader (List (α × Bool)) := do
  separatedWithin op ends read ((← get).length + 1)

/-- Items as they are written, with an operator behind those that are followed by one. -/
def joined (op : List Char) (items : List (List Token × Bool)) : List Token :=
  items.flatMap fun (tokens, followed) => tokens ++ if followed then Token.operator op else []

/-- The tokens of items with an operator between them. -/
def series (op : List Char) (ends : List Token → Bool) (read : Reader (List Token)) :
    Reader (List Token) := do
  return joined op (← separated op ends read)

/-- Items with commas between them, up to the end. -/
def commaSeparated {α : Type} (read : Reader α) : Reader (List α) := do
  return (← separated [','] List.isEmpty read).map Prod.fst

/-- The tokens of items with commas between them, up to the end. -/
def commaSeries (read : Reader (List Token)) : Reader (List Token) := series [','] List.isEmpty read

end Grammar

end TypedPrefs.Code
