import TypedPrefs.Code.Grammar
import TypedPrefs.Enums.Implementation

/-!
# Enums as written

An enum is persisted by name if its definition says so. Attributes named `preference` give the names
to use. All that is wrong with them and with the definition is collected.

`Enums.expand` models `expand_preference_enum` of the macros, with the attributes as `darling` reads
them.
-/

namespace TypedPrefs.Enums

open Code Grammar

/-- What is wrong with a definition. -/
inductive Fault where
  /-- An attribute with a value, or whose content is no list of settings. -/
  | malformedAttribute
  /-- A literal where a setting should stand. -/
  | literalSetting
  | unknownSetting (key : String)
  | repeatedSetting (key : String)
  /-- A setting without a value of its type. -/
  | unusableValue (key : String)
  | notAnEnum (name : String)
  | variantWithFields (name : String)
  | duplicateName (name : String)
  deriving Repr, DecidableEq

/-- The wording of a fault. -/
def Fault.message : Fault → String
  | .malformedAttribute => "malformed attribute"
  | .literalSetting => "unexpected literal"
  | .unknownSetting key => "unknown setting '" ++ key ++ "'"
  | .repeatedSetting key => "duplicate setting '" ++ key ++ "'"
  | .unusableValue key => "unusable value of setting '" ++ key ++ "'"
  | .notAnEnum name => "'" ++ name ++ "' is no enum"
  | .variantWithFields name => "variant '" ++ name ++ "' has fields"
  | .duplicateName name => "duplicate persisted name '" ++ name ++ "'"

/-- A setting. -/
inductive Setting where
  /-- The name of the enum in messages. -/
  | typeName (name : String)
  /-- The path to the run-time library. -/
  | runtime (path : List Token)
  /-- The name that a variant is persisted under. -/
  | rename (name : String)

/-- The literal that a setting's value is. -/
def literalValue? : MetaSyntax → Option String
  | .value _ ⟨.literal, [.literal s], _⟩ => some s
  | _ => none

/-- The text of a setting's value. -/
def textValue? (m : MetaSyntax) : Option String := (literalValue? m).bind Literal.stringValue?

/-- The path that a setting's value is, or that its text is. A type in front of the path is left
out, and the text has no suffix. -/
def pathValue? : MetaSyntax → Option (List Token)
  | .value _ ⟨.path p, _, _⟩ => some p.tokens
  | m => do
    let s ← literalValue? m
    if Literal.hasSuffix s then none
    (pathSyntax? (← Literal.stringValue? s)).map PathSyntax.tokens

/-- A key with the way to read its value. -/
abbrev Key := String × (MetaSyntax → Option Setting)

/-- The keys for an enum. -/
def enumKeys : List Key :=
  [("type_name", fun m => (textValue? m).map .typeName),
    ("runtime", fun m => (pathValue? m).map .runtime)]

/-- The keys for a variant. -/
def variantKeys : List Key := [("rename", fun m => (textValue? m).map .rename)]

/-- A literal or a setting in the list of an attribute. The name of a setting may be any word. -/
def listed (r : Nested) : Reader (Option MetaSyntax) := do
  let isSetting ← ahead fun ts =>
    !beginsLiteral ts || (beginsAnyWord ["true", "false"] ts && second (begins ['=']) ts)
  if isSetting then return some (← metaBehind r (← namePath beginsSomeWord))
  else
    let _ ← literal
    return none

/-- What is listed in an attribute: each element is a setting or a fault. -/
def listedIn (r : Nested) (m : MetaSyntax) : List (Except Fault MetaSyntax) :=
  match m with
  | .path _ => []
  | .value .. => [.error .malformedAttribute]
  | .list _ _ ts =>
    match whole? (commaSeparated (listed r)) ts with
    | none => [.error .malformedAttribute]
    | some ms => ms.map fun
      | some m => .ok m
      | none => .error .literalSetting

/-- The settings that are listed and what is wrong with them. Only the first one of a key counts. -/
def collect (keys : List Key) (seen : List String) :
    List (Except Fault MetaSyntax) → List Setting × List Fault
  | [] => ([], [])
  | .error fault :: rest =>
    let (settings, faults) := collect keys seen rest
    (settings, fault :: faults)
  | .ok m :: rest =>
    let key := m.name.name
    match keys.lookup key with
    | none =>
      let (settings, faults) := collect keys seen rest
      (settings, .unknownSetting key :: faults)
    | some read =>
      let (settings, faults) := collect keys (key :: seen) rest
      if key ∈ seen then (settings, .repeatedSetting key :: faults)
      else
        match read m with
        | some setting => (setting :: settings, faults)
        | none => (settings, .unusableValue key :: faults)

/-- The settings in attributes. -/
def settings (r : Nested) (keys : List Key) (attributes : List MetaSyntax) :
    List Setting × List Fault :=
  collect keys [] ((attributes.filter fun a => a.name.name = "preference").flatMap (listedIn r))

/-- What is wrong with the shape of an item. -/
def shapeFaults (item : DataItem) : List Fault :=
  match item.data with
  | .enum variants =>
    (variants.filter (!·.1.isUnit)).map fun (v, _) => .variantWithFields v.name
  | .struct _ => [.notAnEnum item.name]
  | .union _ => [.notAnEnum item.name]

/-- The variants of an item. -/
def variantsOf (item : DataItem) : List VariantSyntax :=
  match item.data with
  | .enum variants => variants.map Prod.fst
  | _ => []

/-- A variant with its settings. -/
def variantOf (r : Nested) (v : VariantSyntax) : EnumVariant × List Fault :=
  let (found, faults) := settings r variantKeys v.attributes
  let rename := found.findSome? fun
    | .rename name => some name
    | _ => none
  (⟨v.name, rename⟩, faults)

/-- An enum that is to be persisted by name. -/
structure Definition where
  name : String
  parameters : ParameterSeries
  conditions : List Token
  runtime : List Token
  implementation : EnumImplementation

/-- The library that generated code refers to if nothing else is said. -/
def defaultRuntime : List Token := Token.code ":: prefgen_core"

/-- The definition of an enum, or what is wrong with it. Names are looked at only if all else is
right. -/
def Definition.ofItem (r : Nested) (item : DataItem) : Except (List Fault) Definition := do
  let (found, faults) := settings r enumKeys item.attributes
  let variants := (variantsOf item).map (variantOf r)
  refuse (faults ++ shapeFaults item ++ variants.flatMap Prod.snd)
  let typeName := (found.findSome? fun
    | .typeName name => some name
    | _ => none).getD item.name
  let runtime := (found.findSome? fun
    | .runtime path => some path
    | _ => none).getD defaultRuntime
  match EnumImplementation.derive typeName (variants.map Prod.fst) with
  | .error names => .error (names.map .duplicateName)
  | .ok implementation =>
    .ok ⟨item.name, item.parameters, item.conditions, runtime, implementation⟩
where
  /-- Fails if there are faults. -/
  refuse (faults : List Fault) : Except (List Fault) Unit :=
    if faults.isEmpty then .ok () else .error faults

/-! ## Code -/

/-- The variants with commas between them. -/
def variantList : List String → List Token
  | [] => []
  | [v] => Token.code "Self ::" ++ [.word v]
  | v :: rest => Token.code "Self ::" ++ [.word v] ++ Token.code "," ++ variantList rest

/-- The arm that gives the name of a variant. -/
def nameArm (arm : String × String) : List Token :=
  Token.code "Self ::" ++ [.word arm.1] ++ Token.code "=>" ++ [.string arm.2] ++ Token.code ","

/-- The arm that gives the variant of a name. -/
def lookupArm (arm : String × String) : List Token :=
  [.string arm.1] ++ Token.code "=> :: core :: option :: Option :: Some" ++
    [.parens (Token.code "Self ::" ++ [.word arm.2])] ++ Token.code ","

/-- The function that gives the name of a variant. -/
def nameFunction (e : EnumImplementation) : List Token :=
  Token.code "fn name" ++ [.parens (Token.code "& self")] ++ Token.code "-> & 'static str" ++
    [.braces (Token.code "match self" ++ [.braces (e.nameArms.flatMap nameArm)])]

/-- The function that gives the variant of a name. -/
def lookupFunction (e : EnumImplementation) : List Token :=
  Token.code "fn from_name" ++ [.parens (Token.code "name : & str")] ++
    Token.code "-> :: core :: option :: Option < Self >" ++
    [.braces (Token.code "match name" ++
      [.braces (e.lookupArms.flatMap lookupArm ++
        Token.code "_ => :: core :: option :: Option :: None ,")])]

/-- The code of the implementation. -/
def Definition.tokens (d : Definition) : List Token :=
  let e := d.implementation
  Token.code "impl" ++ parameterTokens ParameterSyntax.introduction d.parameters ++
    d.runtime ++ Token.code ":: PreferenceEnum for" ++ [.word d.name] ++
    parameterTokens ParameterSyntax.use d.parameters ++ d.conditions ++
    [.braces (Token.code "const TYPE_NAME : & 'static str =" ++ [.string e.typeName] ++
      Token.code "; const VARIANTS : & 'static" ++ [.brackets (Token.code "Self")] ++
      Token.code "= &" ++ [.brackets (variantList e.variants)] ++ Token.code ";" ++
      nameFunction e ++ lookupFunction e)]

/-- Why there is no code for an item. -/
inductive Failure where
  /-- The text is no item that defines a data type. -/
  | notAnItem
  /-- Unions are not looked into. -/
  | union (name : String)
  | faults (faults : List Fault)
  deriving Repr, DecidableEq

/-- The code that implements persistence by name for the enum whose definition is given. -/
def expand (source : String) : Except Failure (List Token) :=
  match tokens? source with
  | none => .error .notAnItem
  | some ts =>
    let r := nestedFor ts
    match whole? (dataItem r) ts with
    | none => .error .notAnItem
    | some item =>
      match item.data with
      | .union _ => .error (.union item.name)
      | _ =>
        match Definition.ofItem r item with
        | .error faults => .error (.faults faults)
        | .ok d => .ok d.tokens

end TypedPrefs.Enums
