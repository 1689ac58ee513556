import TypedPrefs.Text.Pieces

/-!
# Messages

Documents, types, parameters and paths are read by parsers from elsewhere. Which texts they accept,
and as what, is settled by the readers in `Document` and `Code`; in which words they refuse the
others is not known. A message that ends with such words holds the text that was refused, and only
has a wording for given `Parsers`.

The parsers are those of `toml` and `syn`; what they say reaches a diagnostic through `SchemaError`
and `runtime_path`.
-/

namespace TypedPrefs

/-- A text that a parser refused. -/
inductive Refused where
  /-- A document. If it can be read and only fits no declaration, the fault is known, to which the
  parser adds what it likes, such as the place and an excerpt. -/
  | document (source : String) (fault : Option String)
  | type (expression : String)
  | parameter (expression : String)
  | path (text : String)
  deriving Repr, DecidableEq

/-- The words in which parsers refuse texts. -/
class Parsers where
  reason : Refused → String

/-- Parsers that tell the fault of a document if it is known, and of other texts only that they are
wrong. -/
@[reducible] def Parsers.plain : Parsers where
  reason
    | .document _ (some fault) => fault
    | _ => "<syntax error>"

/-- What a message says in the words of the parsers. Blanks at the end are dropped if it is about a
document. -/
def Refused.words [Parsers] (r : Refused) : String :=
  match r with
  | .document .. => String.ofList (Text.trimEnd (Parsers.reason r).toList)
  | _ => Parsers.reason r

/-- A message. -/
structure Message where
  /-- What is said in any case. -/
  text : String
  /-- What was refused by a parser, if its words follow. -/
  refused : Option Refused := none
  deriving Repr, DecidableEq

namespace Message

instance : Coe String Message := ⟨fun text => ⟨text, none⟩⟩

/-- The message in words. -/
def wording [Parsers] (m : Message) : String :=
  match m.refused with
  | none => m.text
  | some r => m.text ++ r.words

@[simp] theorem wording_text [Parsers] (text : String) : (text : Message).wording = text := rfl

/-- A message that ends with a reason, or with the words of the parser if there is none. -/
def because (front : String) (reason : Option String) (r : Refused) : Message :=
  match reason with
  | some reason => front ++ reason
  | none => ⟨front, some r⟩

end Message

end TypedPrefs
