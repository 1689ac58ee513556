import TypedPrefs.Code.Data
import TypedPrefs.Code.Statement

/-!
# Items

Items stand among statements, in modules, and as members of traits, implementations and foreign
blocks. An item of a form that only newer language versions give a meaning to is kept as it is: its
reader gives nothing but that it fits.
-/

namespace TypedPrefs.Code.Grammar

/-- A reader for an item that may have to be kept as it is; then it gives no tokens. -/
abbrev ItemReader := Reader (Option (List Token))

/-- The tokens of an item behind its attributes. If it has to be kept as it is, so do these. -/
def itemTokens (r : Nested) (read : ItemReader) : Reader (List Token) := do
  let start ← get
  let attributes ← leading r
  match ← read with
  | some tokens => return attributes ++ tokens
  | none => usedSince start

/-- An item that is never kept as it is. -/
def always (read : Reader (List Token)) : ItemReader := do return some (← read)

/-- The tokens of an item, unless it has to be kept as it is. -/
def keptIf (isRaw : Bool) (tokens : List Token) : Option (List Token) :=
  if isRaw then none else some tokens

/-- A name or an underscore. -/
def nameOrBlank : Reader (List Token) :=
  select [(beginsWord "_", word "_"), (fun _ => true, name)]

/-- The members of an item in braces. -/
def members (r : Nested) (read : Reader (List Token)) : Reader (List Token) :=
  group .brace (inRow [innerAttributes r, repeatToEnd read])

/-! ## Functions -/

/-- The receiver of a method. -/
def receiver (r : Nested) : Reader (List Token) := do
  let reference ← whenAhead (begins ['&'])
    (inRow [operator ['&'], whenAhead beginsLifetime lifetime])
  let tokens ← inRow [wordIf "mut", word "self"]
  let type ← if reference.isEmpty then whenAhead (begins [':']) (ascription r) else pure []
  return reference ++ tokens ++ type

/-- A parameter with a type, or dots behind a name: whether it is the latter, and its tokens. A
parameter without a name is given a blank one. -/
def typedParameter (r : Nested) : Reader (Bool × List Token) := do
  if ← ahead fun ts => beginsIdentifier ts && second (begins ['<']) ts then
    return (false, Token.code "_ :" ++ (← written r true))
  else
    let head ← inRow [do return (← r.pattern).tokens, operator [':']]
    if ← ahead (begins ['.', '.', '.']) then
      return (true, head ++ (← inRow [operator ['.', '.', '.'], operatorIf [',']]))
    else return (false, head ++ (← written r true))

/-- The parameters of a function. Only the first one may be a receiver, and nothing follows dots. -/
def parameterSeries (r : Nested) : Bool → Nat → Reader (List Token)
  | _, 0 => failure
  | isFirst, fuel + 1 => do
    if (← get).isEmpty then return []
    let attributes ← leading r
    let start ← get
    if begins ['.', '.', '.'] start then
      return attributes ++ (← inRow [operator ['.', '.', '.'], operatorIf [',']])
    let (isLast, parameter) ←
      match receiver r start with
      | some (tokens, rest) =>
        if isFirst then
          set rest
          pure (false, tokens)
        else failure
      | none => typedParameter r
    if isLast || (← get).isEmpty then return attributes ++ parameter
    let comma ← operator [',']
    return attributes ++ parameter ++ comma ++ (← parameterSeries r false fuel)

/-- The head of a function. -/
def signature (r : Nested) : Reader (List Token) :=
  inRow [wordIf "const", wordIf "async", wordIf "unsafe", convention, word "fn", name,
    parameterList r, group .paren do parameterSeries r true ((← get).length + 1),
    result r true, conditions r]

/-- The modifiers of a function in front of its keyword. -/
def functionModifiers (safe : Bool) : Reader (List Token) :=
  inRow [wordIf "const", wordIf "async",
    if safe then select [(beginsWord "safe", word "safe"), (fun _ => true, wordIf "unsafe")]
    else wordIf "unsafe",
    convention]

/-- Whether the head of a function begins here. -/
def beginsSignature (safe : Bool) (ts : List Token) : Bool :=
  ((functionModifiers safe).run ts).any fun (_, rest) => beginsWord "fn" rest

/-- A function with its body, or without one if it is kept as it is. -/
def function (r : Nested) (modifiers : Reader (List Token)) : ItemReader := do
  let head ← inRow [modifiers, signature r]
  if ← ahead (begins [';']) then
    let _ ← operator [';']
    return none
  else return some (head ++ (← body r))

/-! ## Constants, types and macros -/

/-- A variable with a fixed place. -/
def staticItem (r : Nested) : ItemReader := do
  let head ← inRow [visibility, word "static", wordIf "mut", name]
  if ← ahead (begins ['=']) then
    let _ ← inRow [assigned r, operator [';']]
    return none
  else
    let type ← ascription r
    let isOpen ← ahead (begins [';'])
    let tail ← inRow [whenAhead (fun _ => !isOpen) (assigned r), operator [';']]
    return keptIf isOpen (head ++ type ++ tail)

/-- A constant behind its modifiers: whether it is generic, whether it has a value, and its
tokens. -/
def constantItem (r : Nested) (modifiers : Reader (List Token)) :
    Reader (Bool × Bool × List Token) := do
  let head ← inRow [modifiers, word "const", nameOrBlank]
  let hasParameters ← ahead (begins ['<'])
  let parameters ← parameterList r
  let type ← ascription r
  let value ← whenAhead (begins ['=']) (assigned r)
  let hasConditions ← ahead (beginsWord "where")
  let conditions ← conditions r
  let semicolon ← operator [';']
  return (hasParameters || hasConditions, !value.isEmpty,
    head ++ parameters ++ type ++ value ++ conditions ++ semicolon)

/-- A constant that is kept as it is without a value or with parameters. -/
def valuedConstant (r : Nested) (modifiers : Reader (List Token)) : ItemReader := do
  let (isGeneric, hasValue, tokens) ← constantItem r modifiers
  return keptIf (isGeneric || !hasValue) tokens

/-- The parts of a type with a name of its own. -/
structure TypeItem where
  head : List Token
  hasColon : Bool
  bounds : List Token
  definition : List Token
  conditions : List Token

/-- The tokens of a type with a name of its own. The conditions stand before the definition or
behind it. -/
def TypeItem.tokens (conditionsFirst : Bool) (t : TypeItem) : List Token :=
  t.head ++ ParameterSyntax.withColon t.bounds ++
    (if conditionsFirst then t.conditions ++ t.definition else t.definition ++ t.conditions) ++
    Token.operator [';']

/-- A type with a name of its own. `before` and `after` tell where conditions may stand. -/
def typeItem (r : Nested) (modifiers : Reader (List Token)) (before after : Bool) :
    Reader TypeItem := do
  let head ← inRow [modifiers, word "type", name, parameterList r]
  let colon ← operatorIf [':']
  let ends (ts : List Token) : Bool := beginsWord "where" ts || beginsAny [['='], [';']] ts
  let bounds ← if colon.isEmpty then pure [] else bounds r ends
  let early ← if before then conditions r else pure []
  let definition ← whenAhead (begins ['=']) (inRow [operator ['='], written r true])
  let late ← if after && early.isEmpty then conditions r else pure []
  let _ ← operator [';']
  return ⟨head, !colon.isEmpty, boundTokens bounds, definition, early ++ late⟩

/-- A type that is kept as it is with bounds or without a definition. -/
def definedType (r : Nested) (modifiers : Reader (List Token)) (before : Bool) : ItemReader := do
  let t ← typeItem r modifiers before (!before)
  return keptIf (t.hasColon || t.definition.isEmpty) (t.tokens before)

/-- A macro as an item. Arguments that are not in braces need a semicolon behind them. `named`
allows a name behind the exclamation mark. -/
def macroItem (named : Bool) : Reader (List Token) := do
  let head ← inRow [plainPathTokens, operator ['!'],
    if named then select [(beginsWord "try", word "try"), (beginsIdentifier, name),
      (fun _ => true, return [])]
    else return []]
  let inBraces ← ahead (beginsGroup .brace)
  let arguments ← rawGroup
  if inBraces then return head ++ arguments
  else return head ++ arguments ++ (← operator [';'])

/-- The definition of a macro by a word of its own, which is kept as it is. -/
def macroDefinition : ItemReader := do
  let _ ← inRow [visibility, word "macro", name, whenAhead (beginsGroup .paren) rawGroup]
  expecting (beginsGroup .brace)
  let _ ← rawGroup
  return none

/-! ## Members of traits, implementations and foreign blocks -/

/-- Whether a member begins here that is a macro. -/
def beginsMacro (ts : List Token) : Bool := beginsPath ts || begins [':', ':'] ts

/-- Whether a word for a visibility or for a default begins here. -/
def beginsModifier (ts : List Token) : Bool := beginsAnyWord ["pub", "default"] ts

/-- A function of a trait, which may lack a body. -/
def traitFunction (r : Nested) : Reader (List Token) :=
  inRow [signature r, select [(beginsGroup .brace, body r), (fun _ => true, operator [';'])]]

/-- A member of a trait. One with a visibility or a default is kept as it is. -/
def traitMember (r : Nested) : ItemReader := do
  let isModified ← ahead beginsModifier
  let _ ← inRow [visibility, wordIf "default"]
  let keep (read : ItemReader) : ItemReader := do
    let tokens ← read
    return if isModified then none else tokens
  select [
    (beginsSignature false, keep (always (traitFunction r))),
    (beginsWord "const", keep do
      let (isGeneric, _, tokens) ← constantItem r (return [])
      return keptIf isGeneric tokens),
    (beginsWord "type", keep do
      return some ((← typeItem r (return []) false true).tokens false)),
    (fun ts => !isModified && beginsMacro ts, always (macroItem false))]

/-- The words in front of a member of an implementation. -/
def implementationModifiers : Reader (List Token) :=
  inRow [visibility, whenAhead (fun ts => beginsWord "default" ts && !second (begins ['!']) ts)
    (word "default")]

/-- A member of an implementation. -/
def implementationMember (r : Nested) : ItemReader := do
  let start ← get
  let modifiers ← implementationModifiers
  let ts ← get
  set start
  if beginsSignature false ts then function r implementationModifiers
  else if beginsWord "const" ts then valuedConstant r implementationModifiers
  else if beginsWord "type" ts then definedType r implementationModifiers false
  else if modifiers.isEmpty && beginsMacro ts then always (macroItem false)
  else failure

/-- A function of a foreign block. It has no body, unless it is kept as it is. -/
def foreignFunction (r : Nested) : ItemReader := do
  let start ← get
  let isSafe := match functionModifiers true start with
    | some (tokens, _) => tokens.any fun
      | .word w => w = "safe"
      | _ => false
    | none => false
  let head ←
    if isSafe then inRow [functionModifiers true, signature r] else signature r
  if ← ahead (beginsGroup .brace) then
    let _ ← body r
    return none
  else return keptIf isSafe (head ++ (← operator [';']))

/-- A variable of a foreign block. It has no value, unless it is kept as it is. -/
def foreignStatic (r : Nested) : ItemReader := do
  let isMarked ← ahead (beginsAnyWord ["unsafe", "safe"])
  let head ← inRow [whenAhead (beginsAnyWord ["unsafe", "safe"]) do return [.word (← someWord)],
    word "static", wordIf "mut", name, ascription r]
  let hasValue ← ahead (begins ['='])
  let tail ← inRow [whenAhead (begins ['=']) (assigned r), operator [';']]
  return keptIf (isMarked || hasValue) (head ++ tail)

/-- A type of a foreign block. It has neither bounds nor a definition, unless it is kept as it
is. -/
def foreignType (r : Nested) : ItemReader := do
  let t ← typeItem r (return []) true true
  return keptIf (t.hasColon || !t.definition.isEmpty) (t.tokens true)

/-- A member of a foreign block. -/
def foreignMember (r : Nested) : ItemReader := do
  let shown ← visibility
  let behindIt (read : ItemReader) : ItemReader := do
    return (← read).map (shown ++ ·)
  select [
    (beginsSignature true, behindIt (foreignFunction r)),
    (fun ts => beginsWord "static" ts || (beginsAnyWord ["unsafe", "safe"] ts &&
      second (beginsWord "static") ts), behindIt (foreignStatic r)),
    (beginsWord "type", behindIt (foreignType r)),
    (fun ts => shown.isEmpty && beginsMacro ts, always (macroItem false))]

/-! ## Blocks of items -/

/-- A library that is made known. -/
def libraryItem : Reader (List Token) :=
  inRow [visibility, word "extern", word "crate",
    select [(beginsWord "self", word "self"), (fun _ => true, name)],
    whenAhead (beginsWord "as") (inRow [word "as", nameOrBlank]), operator [';']]

/-- A block of foreign items. -/
def foreignBlock (r : Nested) : Reader (List Token) :=
  inRow [wordIf "unsafe", do
      expecting (beginsWord "extern")
      convention,
    members r (itemTokens r (foreignMember r))]

/-- A tree of names that are made known. Two colons at the beginning of a branch make the item one
that is kept as it is; then there are no tokens. -/
def useTree : Nat → Bool → ItemReader
  | 0, _ => failure
  | depth + 1, roots => do
    let ts ← get
    if beginsIdentifier ts || beginsAnyWord ["self", "super", "crate", "try"] ts then
      let w := [Token.word (← someWord)]
      if ← ahead (begins [':', ':']) then
        let colons ← operator [':', ':']
        return (← useTree depth false).map (w ++ colons ++ ·)
      else if ← ahead (beginsWord "as") then
        return some (w ++ (← inRow [word "as", nameOrBlank]))
      else return some w
    else if begins ['*'] ts then return some (← operator ['*'])
    else
      let branches ← inGroup .brace (separated [','] List.isEmpty do
        let colons ← if roots then operatorIf [':', ':'] else pure []
        let tokens ← useTree depth (roots && colons.isEmpty)
        return if colons.isEmpty then tokens else none)
      let written ← pure (branches.mapM fun (tokens, comma) => tokens.map (·, comma))
      return written.map fun branches => [.braces (joined [','] branches)]

/-- Names that are made known. -/
def useItem : ItemReader := do
  let head ← inRow [visibility, word "use"]
  let colons ← operatorIf [':', ':']
  let tree ← useTree (Token.weightOf (← get) + 1) colons.isEmpty
  let semicolon ← operator [';']
  return tree.map (head ++ colons ++ · ++ semicolon)

/-- A module. -/
def moduleItem (r : Nested) : Reader (List Token) :=
  inRow [visibility, wordIf "unsafe", word "mod",
    select [(beginsWord "try", word "try"), (fun _ => true, name)],
    select [(begins [';'], operator [';']), (fun _ => true, members r r.item)]]

/-- A trait, from its parameters on. -/
def traitBody (r : Nested) : Reader (List Token) := do
  let colon ← operatorIf [':']
  let ends (ts : List Token) : Bool := beginsWord "where" ts || beginsGroup .brace ts
  let bounds ← if colon.isEmpty then pure [] else bounds r ends
  return ParameterSyntax.withColon (boundTokens bounds) ++
    (← inRow [conditions r, members r (itemTokens r (traitMember r))])

/-- A short name for bounds, from its equality sign on. -/
def traitAlias (r : Nested) : Reader (List Token) :=
  inRow [operator ['='], do
      return boundTokens (← bounds r fun ts => beginsWord "where" ts || begins [';'] ts),
    conditions r, operator [';']]

/-- A trait, or a short name for bounds. -/
def traitItem (r : Nested) : Reader (List Token) := do
  let head ← inRow [visibility, wordIf "unsafe", wordIf "auto"]
  let isPlain := !(head.any fun
    | .word w => w = "unsafe" || w = "auto"
    | _ => false)
  let named ← inRow [word "trait", name, parameterList r]
  let tail ← if isPlain && begins ['='] (← get) then traitAlias r else traitBody r
  return head ++ named ++ tail

/-- Whether parameters begin here, where a type in angle brackets may as well. -/
def beginsParameters (ts : List Token) : Bool :=
  let goesOn (ts : List Token) : Bool := beginsAny [['>'], [','], ['=']] ts || beginsColon ts
  begins ['<'] ts && (second (fun ts => beginsAny [['>'], ['#']] ts || beginsWord "const" ts) ts ||
    second (fun ts => (beginsLifetime ts || beginsIdentifier ts) && second goesOn ts) ts)

/-- The type that an implementation is for, with the trait in front of it: whether the item has to
be kept as it is, and the tokens. A negative implementation without a trait keeps its type as it
is. -/
def implementationHead (r : Nested) : Reader (Bool × List Token) := do
  let start ← get
  let sign ← whenAhead (fun ts => begins ['!'] ts && !second (beginsGroup .brace) ts)
    (operator ['!'])
  let first ← r.type true
  if ← ahead (beginsWord "for") then
    let isPath := match first with
      | .path _ => true
      | _ => false
    return (!isPath, sign ++ first.tokens ++ (← inRow [word "for", written r true]))
  else if sign.isEmpty then return (false, first.tokens)
  else return (false, ← usedSince start)

/-- An implementation. -/
def implementationItem (r : Nested) : ItemReader := do
  let isShown ← ahead (beginsWord "pub")
  let _ ← visibility
  let head ← inRow [wordIf "default", wordIf "unsafe", word "impl",
    whenAhead beginsParameters (parameterList r)]
  let isConstant ← ahead fun ts => beginsWord "const" ts ||
    (begins ['?'] ts && second (beginsWord "const") ts)
  let _ ← whenAhead (fun _ => isConstant) (inRow [operatorIf ['?'], word "const"])
  let (isRaw, subject) ← implementationHead r
  let tail ← inRow [conditions r, members r (itemTokens r (implementationMember r))]
  return keptIf (isShown || isConstant || isRaw) (head ++ subject ++ tail)

/-- The reader for an item by its first words. `isShown` tells whether a visibility stands in front
of these. -/
def itemReader (r : Nested) (isShown : Bool) (ts : List Token) : ItemReader :=
  if beginsSignature false ts then function r visibility
  else if beginsWord "extern" ts then
    if second (beginsWord "crate") ts then always libraryItem else always (foreignBlock r)
  else if beginsWord "use" ts then useItem
  else if beginsWord "static" ts then staticItem r
  else if beginsWord "const" ts then valuedConstant r visibility
  else if beginsWord "unsafe" ts then
    if second (beginsAnyWord ["trait", "auto"]) ts then always (traitItem r)
    else if second (beginsWord "impl") ts then implementationItem r
    else if second (beginsWord "extern") ts then always (foreignBlock r)
    else always (moduleItem r)
  else if beginsWord "mod" ts then always (moduleItem r)
  else if beginsWord "type" ts then definedType r visibility true
  else if beginsAnyWord ["struct", "enum"] ts ||
      (beginsWord "union" ts && second beginsIdentifier ts) then
    always do return (← dataItem r).tokens
  else if beginsWord "trait" ts || (beginsWord "auto" ts && second (beginsWord "trait") ts) then
    always (traitItem r)
  else if beginsWord "impl" ts || (beginsWord "default" ts && !second (begins ['!']) ts) then
    implementationItem r
  else if beginsWord "macro" ts then macroDefinition
  else if !isShown && beginsMacro ts then always (macroItem true)
  else failure

/-- An item with its attributes, given readers for the code inside of it. -/
def itemStep (r : Nested) : Reader (List Token) :=
  itemTokens r do
    let start ← get
    let shown ← visibility
    let ts ← get
    set start
    itemReader r (!shown.isEmpty) ts

end TypedPrefs.Code.Grammar
