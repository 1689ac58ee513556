import TypedPrefs.Code.Parameter

/-!
# Data types

Items that define a data type: enums with their variants, structs and unions with their fields.

The forms are those of `DeriveInput` in `syn`.
-/

namespace TypedPrefs.Code

/-- A variant of an enum. Its fields are kept with their brackets, and its number with the equality
sign. -/
structure VariantSyntax where
  attributes : List MetaSyntax
  name : String
  fields : List Token
  number : List Token

/-- Whether the variant is free of fields. -/
def VariantSyntax.isUnit (v : VariantSyntax) : Bool := v.fields.isEmpty

/-- The tokens of a variant. -/
def VariantSyntax.tokens (v : VariantSyntax) : List Token :=
  Grammar.attributeTokens v.attributes ++ [.word v.name] ++ v.fields ++ v.number

/-- What a data type is made of. Fields are kept with their brackets. -/
inductive DataSyntax where
  | enum (variants : List (VariantSyntax × Bool))
  | struct (fields : List Token)
  | union (fields : List Token)

/-- The word for a data type. -/
def DataSyntax.keyword : DataSyntax → String
  | .enum _ => "enum"
  | .struct _ => "struct"
  | .union _ => "union"

/-- The tokens of what a data type is made of, with the conditions on its parameters. These stand
behind fields in parentheses, and before those in braces. -/
def DataSyntax.tokens (conditions : List Token) : DataSyntax → List Token
  | .enum variants =>
    conditions ++
      [.braces (Grammar.joined [','] (variants.map fun (v, comma) => (v.tokens, comma)))]
  | .struct [.group .brace fields] => conditions ++ [.braces fields]
  | .struct fields => fields ++ conditions ++ Token.operator [';']
  | .union fields => conditions ++ fields

/-- An item that defines a data type. A parameter comes with whether a comma follows it. -/
structure DataItem where
  attributes : List MetaSyntax
  visibility : List Token
  name : String
  parameters : ParameterSeries
  conditions : List Token
  data : DataSyntax

/-- The tokens of an item that defines a data type. -/
def DataItem.tokens (item : DataItem) : List Token :=
  Grammar.attributeTokens item.attributes ++ item.visibility ++
    [.word item.data.keyword, .word item.name] ++
    parameterTokens ParameterSyntax.tokens item.parameters ++ item.data.tokens item.conditions

namespace Grammar

/-- Whether a data type without a name begins here, as the type of a field. -/
def beginsAnonymous (ts : List Token) : Bool :=
  beginsWord "struct" ts || (beginsWord "union" ts && second (beginsGroup .brace) ts)

mutual

/-- A field with a name. One whose name is left out may have a data type without a name, which is
kept as it is. -/
def namedField (r : Nested) : Nat → Reader (List Token)
  | 0 => failure
  | depth + 1 => do
    let head ← inRow [leading r, visibility]
    let isUnnamed ← ahead (beginsWord "_")
    let label ← if isUnnamed then word "_" else name
    let colon ← operator [':']
    let type ←
      if isUnnamed && beginsAnonymous (← get) then verbatim do
        let _ ← someWord
        namedFields r depth
      else written r true
    return head ++ label ++ colon ++ type

/-- Fields in braces. -/
def namedFields (r : Nested) : Nat → Reader (List Token)
  | 0 => failure
  | depth + 1 => group .brace (commaSeries (namedField r depth))

end

/-- Fields in braces. -/
def bracedFields (r : Nested) : Reader (List Token) := do
  namedFields r (2 * Token.weightOf (← get) + 2)

/-- Fields in parentheses. -/
def bareFields (r : Nested) : Reader (List Token) :=
  group .paren (commaSeries (inRow [leading r, visibility, written r true]))

/-- A variant of an enum. It may be given a number; its visibility does not count. -/
def variant (r : Nested) : Reader VariantSyntax := do
  let attributes ← attributes r
  let _ ← visibility
  let w ← identifier
  let fields ← select [(beginsGroup .brace, bracedFields r), (beginsGroup .paren, bareFields r),
    (fun _ => true, return [])]
  return ⟨attributes, w, fields, ← whenAhead (begins ['=']) (assigned r)⟩

/-- The conditions and the fields of a struct. -/
def structBody (r : Nested) : Reader (List Token × List Token) := do
  if ← ahead (beginsGroup .paren) then
    let fields ← bareFields r
    let conditions ← conditions r
    let _ ← operator [';']
    return (conditions, fields)
  else
    let conditions ← conditions r
    if ← ahead (beginsGroup .brace) then return (conditions, ← bracedFields r)
    else
      let _ ← operator [';']
      return (conditions, [])

/-- The conditions and the content of a data type behind its parameters. -/
def dataBody (r : Nested) (keyword : String) : Reader (List Token × DataSyntax) := do
  match keyword with
  | "enum" =>
    let conditions ← conditions r
    let variants ← inGroup .brace (separated [','] List.isEmpty (variant r))
    return (conditions, .enum variants)
  | "struct" =>
    let (conditions, fields) ← structBody r
    return (conditions, .struct fields)
  | "union" =>
    let conditions ← conditions r
    return (conditions, .union (← bracedFields r))
  | _ => failure

/-- An item that defines a data type. -/
def dataItem (r : Nested) : Reader DataItem := do
  let attributes ← attributes r
  let visibility ← visibility
  let keyword ← someWord
  let w ← identifier
  let parameters ← parameters r
  let (conditions, data) ← dataBody r keyword
  return ⟨attributes, visibility, w, parameters, conditions, data⟩

end Grammar

end TypedPrefs.Code
