import TypedPrefs.Declaration.Section
import TypedPrefs.Document.Reader
import TypedPrefs.Document.Stored
import TypedPrefs.Number.Layout
import TypedPrefs.Report.Message
import TypedPrefs.Text.Quoted

/-!
# From documents to declarations

A declaration is read off the tables of a document. The entries of a table are taken in the order of
their keys, and the first one that does not fit is the fault; fields that are missing are noticed
afterwards. An array may stand for a table: its elements are the fields in order.

`Declaration.parse` models `SchemaDocument::from_str`, with the decoding that is derived for the
sections of `schema` and `config`.
-/

namespace TypedPrefs.Declaration

open Document Number

/-- Why a text is no declaration. -/
inductive Fault where
  /-- It is no document, or one with values that cannot be stored. -/
  | malformed
  | missingField (name : String)
  | unknownField (name : String) (expected : List String)
  | unknownVariant (name : String) (expected : List String)
  /-- A value of another sort than expected. -/
  | wrongSort (found expected : String)
  /-- An array that ends before the last required field. -/
  | tooShort (length : Nat) (record : String) (fields : Nat)
  /-- A word for a kind was expected. -/
  | noVariant
  /-- A table in place of a word must have one entry. -/
  | noEntry
  | severalEntries
  /-- The entry must have an empty value. -/
  | entryNotEmpty (sort : String)
  | entryOfSort (sort : String)
  deriving Repr, DecidableEq

/-- Names in back quotes with commas between them. -/
def quotedNames (names : List String) : String :=
  ", ".intercalate (names.map fun n => "`" ++ n ++ "`")

/-- What can stand in a place: one of several names. -/
def expectedNames : List String → String
  | [a, b] => "expected `" ++ a ++ "` or `" ++ b ++ "`"
  | names => "expected one of " ++ quotedNames names

/-- The wording of a fault. For what is no document the parser of documents has one. -/
def Fault.reason? : Fault → Option String
  | .malformed => none
  | .missingField name => some ("missing field `" ++ name ++ "`")
  | .unknownField name expected =>
    some ("unknown field `" ++ name ++ "`, " ++ expectedNames expected)
  | .unknownVariant name expected =>
    some ("unknown variant `" ++ name ++ "`, " ++ expectedNames expected)
  | .wrongSort found expected => some ("invalid type: " ++ found ++ ", expected " ++ expected)
  | .tooShort length record fields =>
    some ("invalid length " ++ toString length ++ ", expected " ++ record ++ " with " ++
      toString fields ++ " elements")
  | .noVariant => some "wanted string or table"
  | .noEntry => some "wanted exactly 1 element, found 0 elements"
  | .severalEntries => some "wanted exactly 1 element, more than 1 element"
  | .entryNotEmpty sort => some ("expected empty " ++ sort)
  | .entryOfSort sort => some ("expected table, found " ++ sort)

/-- A result of reading, or the fault. -/
abbrev Result (α : Type) := Except Fault α

namespace Decode

/-- A number with a fraction in any case. -/
def floatText (x : Double) : String :=
  let text := x.positional
  if x.isFinite && !text.toList.contains '.' then text ++ ".0" else text

/-- What a value is called where something else was expected. -/
def found : Value → String
  | .integer i => "integer `" ++ toString i ++ "`"
  | .float x => "floating point `" ++ floatText x ++ "`"
  | .hugeFloat => "floating point"
  | .boolean b => "boolean `" ++ toString b ++ "`"
  | .string s => "string " ++ Text.quoteForMessage s
  | .array _ => "sequence"
  | .table _ => "map"
  | .datetime _ => "map"

/-- The fault of a value where something else was expected. -/
def refuse {α : Type} (expected : String) (v : Value) : Result α :=
  .error (.wrongSort (found v) expected)

/-- A text. -/
def string : Value → Result String
  | .string s => .ok s
  | v => refuse "a string" v

/-- A truth value. -/
def boolean : Value → Result Bool
  | .boolean b => .ok b
  | v => refuse "a boolean" v

/-- The elements of an array, each read; the first fault counts. -/
def items {α : Type} (item : Value → Result α) : List Value → Result (List α)
  | [] => .ok []
  | v :: rest =>
    match item v with
    | .error fault => .error fault
    | .ok a => (items item rest).map (a :: ·)

/-- An array. -/
def list {α : Type} (item : Value → Result α) : Value → Result (List α)
  | .array vs => items item vs
  | v => refuse "a sequence" v

/-- Any value that can be stored. -/
def anyValue (v : Value) : Result Value :=
  match v.stored? with
  | some v => .ok v
  | none => .error .malformed

/-- A field of a record: its name, whether it must be there, and how a value is put into it. -/
structure Field (α : Type) where
  name : String
  isRequired : Bool
  put : Value → α → Result α

/-- A field that must be there. -/
def required {α β : Type} (name : String) (read : Value → Result β) (put : β → α → α) : Field α :=
  ⟨name, true, fun v a => (read v).map (put · a)⟩

/-- A field that may be left out. -/
def optional {α β : Type} (name : String) (read : Value → Result β) (put : β → α → α) : Field α :=
  ⟨name, false, fun v a => (read v).map (put · a)⟩

/-- Puts in the entries of a table, one after the other. -/
def putEntries {α : Type} (fields : List (Field α)) : List (String × Value) → α → Result α
  | [], a => .ok a
  | (key, v) :: rest, a =>
    match fields.find? (·.name == key) with
    | none => .error (.unknownField key (fields.map Field.name))
    | some field =>
      match field.put v a with
      | .error fault => .error fault
      | .ok a => putEntries fields rest a

/-- Puts in the elements of an array, field by field. `index` fields precede. -/
def putElements {α : Type} (record : String) (count : Nat) :
    Nat → List (Field α) → List Value → α → Result α
  | _, [], _, a => .ok a
  | index, field :: fields, v :: rest, a =>
    match field.put v a with
    | .error fault => .error fault
    | .ok a => putElements record count (index + 1) fields rest a
  | index, field :: fields, [], a =>
    if field.isRequired then .error (.tooShort index record count)
    else putElements record count (index + 1) fields [] a

/-- A record with these fields, from one that has no fields put in. -/
def record {α : Type} (name : String) (fields : List (Field α)) (blank : α) : Value → Result α
  | .table entries => do
    let a ← putEntries fields entries blank
    match fields.find? fun f => f.isRequired && (entries.lookup f.name).isNone with
    | some field => .error (.missingField field.name)
    | none => .ok a
  | .array vs => putElements name fields.length 0 fields vs blank
  | .datetime _ => .error (.unknownField Datetime.reservedKey (fields.map Field.name))
  | v => refuse name v

/-- A word for a kind of declaration. -/
def kindWord (s : String) : Result DeclKind :=
  match DeclKind.all.find? (·.name == s) with
  | some kind => .ok kind
  | none => .error (.unknownVariant s (DeclKind.all.map DeclKind.name))

/-- A kind of declaration: a word, or a table whose only key is the word and whose value is
empty. -/
def kind : Value → Result DeclKind
  | .string s => kindWord s
  | .table [] => .error .noEntry
  | .table [(key, v)] => do
    let k ← kindWord key
    match v with
    | .array [] => .ok k
    | .table [] => .ok k
    | .array _ => .error (.entryNotEmpty "array")
    | .table _ => .error (.entryNotEmpty "table")
    | v => .error (.entryOfSort v.sortName)
  | .table _ => .error .severalEntries
  | _ => .error .noVariant

/-- The options of the generator. -/
def options : Value → Result Options :=
  record "struct GeneratorConfig"
    [optional "runtime_crate" string fun s a => { a with runtimePath := s },
      optional "emit_docs" boolean fun b a => { a with emitDocs := b }]
    {}

/-- A preference. -/
def preference : Value → Result PreferenceSection :=
  record "struct PreferenceSection"
    [required "name" string fun s a => { a with name := s },
      required "type" string fun s a => { a with type := s },
      optional "default" anyValue fun v a => { a with default := some v },
      optional "description" string fun s a => { a with description := s },
      optional "serializer" string fun s a => { a with serializer := some s }]
    {}

/-- A group of preferences. -/
def group : Value → Result GroupSection :=
  record "struct GroupSection"
    [required "name" string fun s a => { a with name := s },
      optional "prefix" string fun s a => { a with keyPrefix := s },
      optional "suffix" string fun s a => { a with keySuffix := s },
      optional "preferences" (list preference) fun ps a => { a with preferences := ps }]
    {}

/-- The class to generate. -/
def mainClass : Value → Result ClassSection :=
  record "struct RootSection"
    [required "name" string fun s a => { a with name := s },
      optional "resources" string fun s a => { a with resources := some s },
      optional "finalized" boolean fun b a => { a with finalized := b },
      optional "fluent" boolean fun b a => { a with fluent := b },
      optional "editor" boolean fun b a => { a with editor := b },
      optional "groups" (list group) fun gs a => { a with groups := gs }]
    {}

/-- A type. -/
def type : Value → Result TypeSection :=
  record "struct TypeSection"
    [required "name" string fun s a => { a with name := s },
      optional "kind" kind fun k a => { a with kind := k },
      optional "params" (list string) fun ps a => { a with params := ps },
      optional "supertypes" (list string) fun ts a => { a with supertypes := ts },
      optional "constructors" (list (list string)) fun cs a => { a with constructors := some cs }]
    {}

/-- A whole declaration. -/
def declaration : Value → Result Declaration :=
  record "struct SchemaDocument"
    [optional "generator" options fun o a => { a with options := o },
      required "preferences" mainClass fun c a => { a with main := c },
      optional "types" (list type) fun ts a => { a with types := ts }]
    {}

end Decode

/-- The declaration that a text spells, or the fault. Values that cannot be stored do no harm where
they are not looked at, but with them any fault makes the document malformed. -/
def decode (source : String) : Result Declaration :=
  match Document.parse? source with
  | none => .error .malformed
  | some entries =>
    match Decode.declaration (.table entries) with
    | .ok d => .ok d
    | .error fault =>
      .error (if (Value.storedEntries? entries).isSome then fault else .malformed)

/-- A text that is no declaration. -/
structure InvalidSource where
  source : String
  fault : Fault
  deriving Repr, DecidableEq

/-- The declaration that a text spells. -/
def parse (source : String) : Except InvalidSource Declaration :=
  (decode source).mapError (⟨source, ·⟩)

/-- The wording of the error. Even where the fault is known, the parser of documents words it. -/
def parseMessage (e : InvalidSource) : Message :=
  ⟨"failed to parse declaration source: ", some (.document e.source e.fault.reason?)⟩

end TypedPrefs.Declaration
