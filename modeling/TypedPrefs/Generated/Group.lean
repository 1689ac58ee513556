import TypedPrefs.Generated.Types
import TypedPrefs.Persist.DefaultCode

/-!
# Generated code of a group

A group becomes a type with getters and setters, a type that holds its keys and, if the class has
editors, a type that collects changes and writes them at once.

`accessors`, `editorItems` and `groupItems` are the templates `accessors`, `editor_items` and
`group_items` of the generator's module `emit`.
-/

namespace TypedPrefs.Generated

open Code Code.Token Blueprint

/-- The preference's stored value seen as one that can be stored: `< T as Persisted > :: method`. -/
def persistedMethod (s : Style) (p : Preference) (method : String) : List Token :=
  code "<" ++ p.binding.kind.codeType ++ code "as" ++ s.library "Persisted" ++
    code ("> :: " ++ method)

/-- The edit that writes `value` under the key of a preference; `keys` leads to the keys. -/
def editOf (s : Style) (p : Preference) (keys : String) : List Token :=
  persistedMethod s p "into_edit" ++
    inParens (code ("value , & " ++ keys ++ " .") ++ name p.method)

/-- The type that a serializer takes and gives. -/
def sourceOf (s : Style) (serializer : TypeRef) : List Token :=
  typeTokens s serializer ++ code "as" ++ s.library "PreferenceSerializer" ++
    code "> :: Source"

/-- A result of a serializer. -/
def serializerResult (s : Style) (ok : List Token) : List Token :=
  code ":: core :: result :: Result <" ++ ok ++ code "," ++ s.library "SerializationError" ++
    code ">"

/-- The call that serializes `value`; `owner` leads to the group. -/
def serializeValue (s : Style) (p : Preference) (owner : String) : List Token :=
  code "let value =" ++ s.library "PreferenceSerializer :: serialize" ++
    inParens (code ("& " ++ owner ++ " .") ++ name p.serializerField ++ code ", value") ++
    code "? ;"

/-- The getter of a preference. -/
def getter (s : Style) (p : Preference) (a : Accessors) : List Token :=
  let read := persistedMethod s p "read" ++
    inParens (code "& * self . store , & self . keys ." ++ name p.method ++ code "," ++
      (DefaultCode.ofDefault p.binding.kind p.default).tokens)
  let head := s.visibility ++ code "fn" ++ name a.getter ++ inParens (code "& self") ++ code "->"
  match p.binding.construction.serializer? with
  | none => head ++ p.binding.kind.codeType ++ inBraces read
  | some serializer =>
    head ++ code ":: core :: result :: Result <<" ++ sourceOf s serializer ++ code "," ++
      s.library "SerializationError" ++ code ">" ++
      inBraces (code "let value =" ++ read ++ code ";" ++
        s.library "PreferenceSerializer :: deserialize" ++
        inParens (code "& self ." ++ name p.serializerField ++ code ", value"))

/-- The statement that writes one edit at once. -/
def applyEdit (edit : List Token) : List Token :=
  code "self . store . apply" ++
    inParens (code ":: std :: vec !" ++ [brackets edit]) ++ code ";"

/-- The setter of a preference. -/
def setter (s : Style) (p : Preference) (a : Accessors) : List Token :=
  let head := s.visibility ++ code "fn" ++ name a.setter
  let apply := applyEdit (editOf s p "self . keys")
  match p.binding.construction.serializer? with
  | none =>
    head ++ inParens (code "& self , value :" ++ p.binding.kind.codeType) ++ inBraces apply
  | some serializer =>
    head ++ inParens (code "& self , value : <" ++ sourceOf s serializer) ++ code "->" ++
      serializerResult s (inParens []) ++
      inBraces (serializeValue s p "self" ++ apply ++ okOf (inParens []))

/-- The getter and the setter of a preference that has a value. -/
def accessors (s : Style) (p : Preference) : List Token :=
  match p.accessors with
  | none => []
  | some a =>
    let doc := s.doc (p.documentation.getD "")
    doc ++ getter s p a ++ doc ++ setter s p a

/-- The setter of a preference on the editor. -/
def editorSetter (s : Style) (p : Preference) : List Token :=
  match p.accessors with
  | none => []
  | some a =>
    let head := s.doc (p.documentation.getD "") ++ s.visibility ++ code "fn" ++
      name a.editorSetter
    let push :=
      code "self . edits . push" ++ inParens (editOf s p "self . group . keys") ++ code ";"
    match p.binding.construction.serializer? with
    | none =>
      head ++ inParens (code "mut self , value :" ++ p.binding.kind.codeType) ++
        code "-> Self" ++ inBraces (push ++ code "self")
    | some serializer =>
      head ++ inParens (code "mut self , value : <" ++ sourceOf s serializer) ++ code "->" ++
        serializerResult s (code "Self") ++
        inBraces (serializeValue s p "self . group" ++ push ++ okOf (code "self"))

/-- The editor of a group. -/
def editorItems (s : Style) (g : Group) : List Token :=
  let editor := name (editorTypeName g.typeName)
  s.doc ("Pending changes to the `" ++ g.name ++ "` preference group") ++ allowUnused ++
    code "#" ++
      [brackets (code "must_use =" ++
        [.string "pending edits are only written by `apply` or `commit`"])] ++
    s.visibility ++ code "struct" ++ editor ++ code "< 'a >" ++
    inBraces (code "group : & 'a" ++ name g.typeName ++
      code ", edits : :: std :: vec :: Vec <" ++ s.library "Edit" ++ code "> ,") ++
    allowUnused ++ code "impl < 'a >" ++ editor ++ code "< 'a >" ++
    inBraces (g.preferences.flatMap (editorSetter s) ++
      s.doc "Write the pending changes without reporting the outcome" ++
      s.visibility ++ code "fn apply" ++ inParens (code "self") ++
      inBraces
        (code "self . group . store . apply" ++ inParens (code "self . edits") ++ code ";") ++
      s.doc "Write the pending changes atomically, returning whether they were stored" ++
      s.visibility ++ code "fn commit" ++ inParens (code "self") ++ code "-> bool" ++
      inBraces (code "self . group . store . commit" ++ inParens (code "self . edits")))

/-- The method of a group that gives an editor. -/
def editMethod (s : Style) (g : Group) : List Token :=
  let editor := name (editorTypeName g.typeName)
  s.doc "Start a batch of changes, written by `apply` or `commit`" ++
    s.visibility ++ code "fn edit" ++ inParens (code "& self") ++ code "->" ++ editor ++
    code "< '_ >" ++
    inBraces (editor ++
      inBraces (code "group : self , edits : :: std :: vec :: Vec :: new" ++ inParens [] ++
        code ","))

/-- The field and the type of each serializer of a group. -/
def serializerField (s : Style) (p : Preference) : List Token :=
  match p.binding.construction.serializer? with
  | none => []
  | some serializer =>
    name p.serializerField ++ code ":" ++ typeTokens s serializer ++ code ","

/-- The field and the making of each serializer of a group. -/
def serializerInit (s : Style) (p : Preference) : List Token :=
  match p.binding.construction with
  | .none => []
  | .byDefault serializer =>
    name p.serializerField ++ code ": <" ++ typeTokens s serializer ++
      code "as :: core :: default :: Default > :: default" ++ inParens [] ++ code ","
  | .fromToken serializer token =>
    name p.serializerField ++ code ": <" ++ typeTokens s serializer ++ code "as" ++
      s.library "FromTypeToken <" ++ typeTokens s token ++ code ">> :: from_type_token" ++
      inParens (s.library "TypeToken :: new" ++ inParens []) ++ code ","

/-- The field that holds a key. -/
def keyField (p : Preference) : List Token :=
  name p.method ++ code ": :: std :: string :: String ,"

/-- The method that gives a key. -/
def keyMethod (s : Style) (p : Preference) : List Token :=
  s.doc ("Store key of the `" ++ p.name ++ "` preference") ++
    s.visibility ++ code "fn" ++ name p.method ++ inParens (code "& self") ++ code "-> & str" ++
    inBraces (code "& self ." ++ name p.method)

/-- The look-up of a key. -/
def keyInit (p : Preference) : List Token :=
  name p.method ++ code ": strings . get_string" ++ inParens [.string p.keyResource] ++ code "? ,"

/-- The function that makes a group. -/
def groupConstructor (s : Style) (g : Group) : List Token :=
  let strings := if g.preferences.isEmpty then "_strings" else "strings"
  code "fn new" ++
    inParens (code "store :" ++ s.store ++ code "," ++ name strings ++ code ": & dyn" ++
      s.library "ResourceStrings" ++ code ",") ++
    code "->" ++ s.resultOf (code "Self") ++
    inBraces (code "let keys =" ++ name (keysTypeName g.typeName) ++
      inBraces (g.preferences.flatMap keyInit) ++ code ";" ++
      okOf (code "Self" ++
        inBraces (code "store , keys ," ++ g.preferences.flatMap (serializerInit s))))

/-- All items of a group. -/
def groupItems (s : Style) (editor : Bool) (g : Group) : List Token :=
  let type := name g.typeName
  let keys := name (keysTypeName g.typeName)
  s.doc ("Accessors for the `" ++ g.name ++ "` preference group") ++ allowUnused ++
    s.visibility ++ code "struct" ++ type ++
    inBraces (code "store :" ++ s.store ++ code ", keys :" ++ keys ++ code "," ++
      g.preferences.flatMap (serializerField s)) ++
    s.doc ("Store keys of the `" ++ g.name ++ "` preference group") ++ allowUnused ++
    s.visibility ++ code "struct" ++ keys ++ inBraces (g.preferences.flatMap keyField) ++
    allowUnused ++ code "impl" ++ keys ++ inBraces (g.preferences.flatMap (keyMethod s)) ++
    allowUnused ++ code "impl" ++ type ++
    inBraces (groupConstructor s g ++
      s.visibility ++ code "fn keys" ++ inParens (code "& self") ++ code "-> &" ++ keys ++
      inBraces (code "& self . keys") ++
      g.preferences.flatMap (accessors s) ++
      (if editor then editMethod s g else [])) ++
    if editor then editorItems s g else []

end TypedPrefs.Generated
