import TypedPrefs.Code.Token
import TypedPrefs.Number.Layout
import TypedPrefs.Persist.DefaultValue

/-!
# Default values in generated code

The expression that a generated getter falls back on, and the types of stored values.

`codeType` is `persisted_rust_type` of the generator's module `emit`; `DefaultCode.ofDefault` with
`tokens` is `default_tokens`, with `int_literal` and `float_literal`.
-/

namespace TypedPrefs

open Code Code.Token Number

namespace StoredKind

/-- The type of a stored value in generated code. -/
def codeType : StoredKind → List Token
  | .boolean => code "bool"
  | .byte => code "i8"
  | .char => code "u16"
  | .short => code "i16"
  | .int => code "i32"
  | .long => code "i64"
  | .float => code "f32"
  | .double => code "f64"
  | .string => code ":: core :: option :: Option < :: std :: string :: String >"
  | .stringSet =>
    code ":: core :: option :: Option <" ++
      code ":: std :: collections :: BTreeSet < :: std :: string :: String >>"
  | .void => [.parens []]

/-- The suffix of an integer literal of the kind. -/
def integerSuffix : StoredKind → String
  | .byte => "i8"
  | .char => "u16"
  | .short => "i16"
  | .int => "i32"
  | _ => "i64"

end StoredKind

/-- An expression for a default. -/
inductive DefaultCode where
  | boolean (b : Bool)
  /-- A natural number with a suffix, behind a minus sign or not. -/
  | integer (negative : Bool) (magnitude : Nat) (suffix : String)
  /-- The constant for no number in a format of 32 or 64 bits. -/
  | notANumber (isSingle : Bool)
  | infinite (isSingle negative : Bool)
  /-- A decimal number with a suffix, behind a minus sign or not. -/
  | decimal (isSingle negative : Bool) (magnitude : String)
  | string (s : String)
  | strings (items : List String)
  | absent
  deriving Repr, DecidableEq

namespace DefaultCode

/-- The type of a floating-point number. -/
def floatType (isSingle : Bool) : String := if isSingle then "f32" else "f64"

/-- A number of 64 bits as an expression for a kind of 32 or 64 bits. -/
def ofFloating (isSingle : Bool) (x : Double) : DefaultCode :=
  if x.isNaN then .notANumber isSingle
  else if !x.isFinite then .infinite isSingle x.isNegative
  else
    .decimal isSingle x.isNegative
      (if isSingle then binary32.precise x.toSingle.magnitude else binary64.precise x.magnitude)

/-- The expression for a default of a kind. -/
def ofDefault (kind : StoredKind) : DefaultValue → DefaultCode
  | .boolean b => .boolean b
  | .integer i => .integer (i < 0) i.natAbs kind.integerSuffix
  | .floating x => ofFloating (kind = .float) x
  | .string s => .string s
  | .strings items => .strings items
  | .absent => .absent

/-- A literal behind a minus sign or not. -/
def signedLiteral (negative : Bool) (text : String) : List Token :=
  (if negative then code "-" else []) ++ [.literal text]

/-- Strings with commas between them. -/
def literalList : List String → List Token
  | [] => []
  | [s] => [.string s]
  | s :: rest => .string s :: code "," ++ literalList rest

/-- The tokens of the expression. -/
def tokens : DefaultCode → List Token
  | .boolean b => code (if b then "true" else "false")
  | .integer negative magnitude suffix =>
    signedLiteral negative (String.ofList (digitChars magnitude) ++ suffix)
  | .notANumber isSingle => code (floatType isSingle) ++ code ":: NAN"
  | .infinite isSingle negative =>
    code (floatType isSingle) ++ code (if negative then ":: NEG_INFINITY" else ":: INFINITY")
  | .decimal isSingle negative magnitude =>
    signedLiteral negative (magnitude ++ floatType isSingle)
  | .string s =>
    code ":: core :: option :: Option :: Some" ++
      [.parens (code ":: std :: string :: String :: from" ++ [.parens [.string s]])]
  | .strings [] =>
    code ":: core :: option :: Option :: Some" ++
      [.parens (code ":: std :: collections :: BTreeSet :: new" ++ [.parens []])]
  | .strings (s :: rest) =>
    code ":: core :: option :: Option :: Some" ++
      [.parens
        ([.brackets (literalList (s :: rest))] ++ code ". into_iter" ++ [.parens []] ++
          code ". map" ++ [.parens (code ":: std :: string :: String :: from")] ++
          code ". collect :: < :: std :: collections :: BTreeSet < :: std :: string :: String >>" ++
          [.parens []] ++ code ",")]
  | .absent => code ":: core :: option :: Option :: None"

end DefaultCode

end TypedPrefs
