import TypedPrefs.Code.Bound

/-!
# Types

A type is told by its first token. A type that begins with a path or with parentheses may go on with
bounds behind plus signs, where these are allowed; it is an object type then.
-/

namespace TypedPrefs.Code.Grammar

/-- Whether a further bound begins here. -/
def beginsBound (place : BoundPlace) (ts : List Token) : Bool :=
  beginsSomeWord ts || beginsAny [[':', ':'], ['?']] ts || beginsLifetime ts ||
    beginsGroup .paren ts || (place.constants && beginsGroup .bracket ts)

/-- The bounds of an object type, one of which must name a type. A plus sign may end them; without
`plus` there is one bound. -/
def objectBounds (r : Nested) (place : BoundPlace) (plus : Bool) : Reader (List Token) := do
  let items ←
    if plus then separated ['+'] (!beginsBound place ·) (r.bound place)
    else do
      let b ← r.bound place
      pure [(b, false)]
  if items.any (·.1.namesType) then return boundTokens items else failure

/-- Further bounds behind plus signs. A plus sign may end them. -/
def furtherBounds (r : Nested) : Reader (List Token) :=
  whenAhead (begins ['+']) (inRow [operator ['+'],
    series ['+'] (!beginsBound ⟨false, false⟩ ·) do return (← r.bound ⟨false, false⟩).tokens])

/-- Further bounds behind plus signs, each of which must have a bound behind it. -/
def requiredBounds (r : Nested) : Reader (List Token) :=
  repeatWhile (begins ['+']) (inRow [operator ['+'],
    do return (← r.bound ⟨false, false⟩).tokens])

/-- The calling convention of a function, if it is given. -/
def convention : Reader (List Token) :=
  whenAhead (beginsWord "extern") (inRow [word "extern",
    whenAhead beginsText do return [← literal]])

/-- Whether the dots that stand for any further parameters begin here, perhaps behind a name. -/
def beginsDots (ts : List Token) : Bool :=
  begins ['.', '.', '.'] ts || ((beginsIdentifier ts || beginsWord "_" ts) &&
    second (begins [':']) ts && third (begins ['.', '.', '.']) ts)

/-- Dots that stand for any further parameters. -/
def dots : Reader (List Token) :=
  inRow [whenAhead beginsSomeWord (inRow [do return [.word (← someWord)], operator [':']]),
    operator ['.', '.', '.'], operatorIf [',']]

/-- Whether the receiver of a method that may change begins here. -/
def beginsChangingReceiver (ts : List Token) : Bool :=
  beginsWord "mut" ts && second (beginsWord "self") ts

/-- A parameter of a function type, which may have a name. The first one may be a receiver; one that
may change is kept as it is. -/
def functionParameter (r : Nested) (isFirst : Bool) : Reader (List Token) := do
  let start ← get
  let changes := isFirst && beginsChangingReceiver start
  if changes then let _ ← someWord
  let isReceiver := isFirst && beginsWord "self" (← get)
  let isNamed ← ahead fun ts =>
    (beginsIdentifier ts || beginsWord "_" ts || isReceiver) && second beginsColon ts
  let named ← if isNamed then inRow [do return [.word (← someWord)], operator [':']] else pure []
  if changes then
    let _ ← if isNamed then written r true else word "self"
    usedSince start
  else if isFirst && !isReceiver && beginsChangingReceiver (← get) then
    let _ ← inRow [word "mut", word "self"]
    usedSince start
  else return named ++ (← written r true)

/-- The parameters of a function type. -/
def functionParameters (r : Nested) : Bool → Nat → Reader (List Token)
  | _, 0 => failure
  | isFirst, fuel + 1 => do
    if (← get).isEmpty then return []
    let attributes ← leading r
    if ← ahead beginsDots then return attributes ++ (← dots)
    let parameter ← functionParameter r isFirst
    if (← get).isEmpty then return attributes ++ parameter
    let comma ← operator [',']
    return attributes ++ parameter ++ comma ++ (← functionParameters r false fuel)

/-- A function type behind its binder. -/
def functionType (r : Nested) : Reader (List Token) :=
  inRow [wordIf "unsafe", convention, word "fn",
    group .paren do functionParameters r true ((← get).length + 1), result r false]

/-- Built-in syntax, kept as it is. -/
def builtin : Reader (List Token) :=
  verbatim do
    let _ ← inRow [word "builtin", operator ['#'], name]
    expecting (beginsGroup .paren)
    rawGroup

/-- A type that begins with a path. -/
def pathType (r : Nested) (plus : Bool) (bound : List Token) : Reader TypeSyntax := do
  if ← ahead (begins ['<']) then return .other (← qualifiedPath r false).2
  let p ← path r false
  if p.isPlain && beginsBang (← get) then return .other (p.tokens ++ (← callArguments))
  let more ← if plus then furtherBounds r else pure []
  if bound.isEmpty && more.isEmpty then return .path p
  else if more.isEmpty then return .lone false (bound ++ p.tokens)
  else return .other (bound ++ p.tokens ++ more)

/-- An object type that begins with a bound in parentheses. -/
def parenthesizedBound (r : Nested) (bound : List Token) : Reader TypeSyntax := do
  let more ← requiredBounds r
  if more.isEmpty then return .lone true bound else return .other (.parens bound :: more)

/-- What stands in the parentheses at the beginning of a type: an object type, a relaxed bound, or
types with commas between them. -/
def parenthesisContent (r : Nested) : Reader (TypeSyntax ⊕ List (TypeSyntax × Bool)) := do
  let ts ← get
  if beginsLifetime ts then return .inl (.paren (.other (← objectBounds r ⟨false, false⟩ true)))
  else if begins ['?'] ts then return .inl (.lone true (← typeBound r ⟨false, false⟩).2.2)
  else return .inr (← separated [','] List.isEmpty (r.type true))

/-- A type in parentheses, a tuple, or an object type that begins with a parenthesis. -/
def parenthesized (r : Nested) (plus : Bool) : Reader TypeSyntax := do
  match ← inGroup .paren (parenthesisContent r) with
  | .inl (.lone _ bound) => parenthesizedBound r bound
  | .inl t => return t
  | .inr [] => return .unit
  | .inr [(t, false)] =>
    if plus && begins ['+'] (← get) then
      match t with
      | .path p => parenthesizedBound r p.tokens
      | .lone _ bound => parenthesizedBound r bound
      | _ => return .paren t
    else return .paren t
  | .inr items =>
    return .other [.parens (joined [','] (items.map fun (t, comma) => (t.tokens, comma)))]

/-- A slice or an array. -/
def bracketed (r : Nested) : Reader (List Token) :=
  group .bracket (inRow [written r true,
    whenAhead (begins [';']) (inRow [operator [';'], value r])])

/-- A pointer. -/
def pointer (r : Nested) : Reader (List Token) :=
  inRow [operator ['*'],
    select [(beginsWord "const", word "const"), (beginsWord "mut", word "mut")], written r false]

/-- A reference. -/
def reference (r : Nested) : Reader (List Token) :=
  inRow [operator ['&'], whenAhead beginsLifetime lifetime, wordIf "mut", written r false]

/-- An object type behind the word for it. One with a star is kept as it is. -/
def dynamic (r : Nested) (plus : Bool) : Reader (List Token) := do
  let start ← get
  let sign ← word "dyn"
  let star ← operatorIf ['*']
  let bounds ← objectBounds r ⟨false, false⟩ plus
  if star.isEmpty then return sign ++ bounds else usedSince start

/-- A type, given readers for the code inside of it. -/
def typeStep (r : Nested) (plus : Bool) : Reader TypeSyntax := do
  let bound ← binder r
  let isFunction := beginsAnyWord ["fn", "unsafe", "extern"]
  if !bound.isEmpty && !(beginsPath (← get) || isFunction (← get)) then failure
  select [
    (beginsGroup .paren, parenthesized r plus),
    (isFunction, do return .other (bound ++ (← functionType r))),
    (beginsBuiltin, do return .other (← builtin)),
    (fun ts => beginsPath ts || beginsAny [[':', ':'], ['<']] ts, pathType r plus bound),
    (beginsWord "dyn", do return .other (← dynamic r plus)),
    (beginsGroup .bracket, do return .other (← bracketed r)),
    (begins ['*'], do return .other (← pointer r)),
    (begins ['&'], do return .other (← reference r)),
    (begins ['!'], do return .other (← operator ['!'])),
    (beginsWord "impl", do
      let sign ← word "impl"
      return .other (sign ++ (← objectBounds r ⟨true, true⟩ plus))),
    (beginsWord "_", do return .other (← word "_")),
    (beginsLifetime, do return .other (← objectBounds r ⟨false, false⟩ true))]

end TypedPrefs.Code.Grammar
