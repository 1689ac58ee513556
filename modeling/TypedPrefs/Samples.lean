import TypedPrefs.Code.Layout
import TypedPrefs.Number.Integer
import TypedPrefs.Report.Message
import TypedPrefs.Session.Class

/-!
# Samples

Two declarations with the enums and serializers that they name, for trying out what a class does,
and what stands for parsers and formatters where there are none.
-/

namespace TypedPrefs.Samples

open Blueprint Number Session

/-! ## Parsers and formatters -/

instance : Parsers := .plain

instance : Code.Formatter := .onLines

/-- A message as it is worded with these parsers. -/
instance : CoeOut Message String := ⟨Message.wording⟩

/-! ## Enums -/

/-- An enum whose variants go by their own names. -/
def theme : EnumImplementation := .ofVariants "Theme" [⟨"Light", none⟩, ⟨"Dark", none⟩]

/-- An enum with variants that go by other names, one of which is empty. -/
def mood : EnumImplementation :=
  .ofVariants "Current mood"
    [⟨"Happy", none⟩, ⟨"Sad", some "blue"⟩, ⟨"Unset", some ""⟩, ⟨"Calm", none⟩]

/-- The enums by their names. -/
def enums : List (String × EnumImplementation) := [("Theme", theme), ("Mood", mood)]

/-! ## Serializers -/

/-- The least temperature. -/
def absoluteZero : Int32 := -273

/-- A temperature that there can be. -/
def checkTemperature (i : Int32) : Except SerializationError Int32 :=
  if i < absoluteZero then .error ⟨toString i ++ " is below absolute zero"⟩ else .ok i

/-- The serializer of temperatures: it refuses those that there cannot be. -/
def celsius : Serializer Int32 Int32 := ⟨checkTemperature, checkTemperature⟩

/-- An integer of 32 bits as text. -/
def parseInt32 (s : String) : Except SerializationError Int32 :=
  match parseWithin? (signedRange 32).1 (signedRange 32).2 s.toList with
  | some i => .ok (Int32.ofInt i)
  | none => .error ⟨"'" ++ s ++ "' is not a valid i32"⟩

/-- The integers that texts stand for; the first text that stands for none is the fault. -/
def parseAll : List String → Except SerializationError (List Int32)
  | [] => .ok []
  | s :: rest =>
    match parseInt32 s with
    | .error e => .error e
    | .ok i => (parseAll rest).map (i :: ·)

/-- The serializer of lists of integers: they are written with commas between them. No value is the
list without elements. -/
def integerList : Serializer (List Int32) (Option String) where
  serialize
    | [] => .ok none
    | items => .ok (some (",".intercalate (items.map toString)))
  deserialize
    | none => .ok []
    | some text => parseAll (Text.splitAtChar ',' text)

/-! ## Values -/

/-- The forms of values in the samples. -/
inductive Form where
  | plain (k : StoredKind)
  | variant (e : EnumImplementation)
  | temperature
  | integers

/-- The values of a form. -/
abbrev Form.Value : Form → Type
  | .plain k => k.Value
  | .variant _ => Option String
  | .temperature => Int32
  | .integers => List Int32

/-- The serializer of a preference, if it is one of those above: the form of its values and the kind
that they are stored in. -/
def knownSerializer (name : String) : (f : Form) × (k : StoredKind) × Serializer f.Value k.Value :=
  match name with
  | "EnumSerializer<crate::Theme>" => ⟨.variant theme, .string, theme.serializer⟩
  | "EnumSerializer<crate::Mood>" => ⟨.variant mood, .string, mood.serializer⟩
  | "crate::CelsiusSerializer" => ⟨.temperature, .int, celsius⟩
  | "crate::ListSerializer<Integer>" => ⟨.integers, .string, integerList⟩
  | _ => ⟨.plain .void, .void, .identity _⟩

/-- The serializer that a preference is declared with. -/
def serializerName (p : Preference) : String :=
  (p.binding.construction.serializer?.map TypeRef.display).getD ""

/-- The form of the values of a preference. -/
def form (p : Preference) : Form :=
  match p.binding.construction with
  | .none => .plain p.binding.kind
  | _ =>
    if (knownSerializer (serializerName p)).2.1 = p.binding.kind then
      (knownSerializer (serializerName p)).1
    else .plain p.binding.kind

/-- How the values of preferences with a serializer are seen. -/
def serializers (p : Preference) : Exposure p.binding.kind :=
  if h : (knownSerializer (serializerName p)).2.1 = p.binding.kind then
    ⟨_, h ▸ (knownSerializer (serializerName p)).2.2⟩
  else .plain p.binding.kind

/-- The values of a preference are those of its form. -/
theorem source_eq (p : Preference) : Source serializers p = (form p).Value := by
  unfold Source exposure form
  cases p.binding.construction with
  | none => rfl
  | _ =>
    simp only [serializers]
    split <;> rfl

/-! ## Declarations -/

/-- A declaration with preferences of all kinds. -/
def mainDeclaration : String :=
  "[preferences]
name = \"app.Main\"
finalized = true

[[preferences.groups]]
name = \"general\"
prefix = \"app_\"
suffix = \"_key\"
preferences = [
    \x7b name = \"flag\", type = \"boolean\", default = true, description = \"A flag\" \x7d,
    \x7b name = \"level\", type = \"byte\", default = -3 \x7d,
    \x7b name = \"code\", type = \"char\", default = 65535 \x7d,
    \x7b name = \"small\", type = \"short\" \x7d,
    \x7b name = \"count\", type = \"int\", default = 7 \x7d,
    \x7b name = \"total\", type = \"long\", default = 9007199254740993 \x7d,
    \x7b name = \"ratio\", type = \"float\", default = 0.25 \x7d,
    \x7b name = \"precise\", type = \"double\", default = -0.0 \x7d,
    \x7b name = \"nickName\", type = \"String\", default = \"anon\" \x7d,
    \x7b name = \"title\", type = \"String\" \x7d,
    \x7b name = \"tags\", type = \"Set<String>\", default = [\"b\", \"a\", \"b\"] \x7d,
    \x7b name = \"labels\", type = \"Set\" \x7d,
    \x7b name = \"theme\", type = \"crate::Theme\" \x7d,
    \x7b name = \"marker\", type = \"void\" \x7d,
]

[[preferences.groups]]
name = \"weather\"
preferences = [
    \x7b name = \"temperature\", type = \"crate::Celsius\", serializer = \"crate::CelsiusSerializer\", default = 20 \x7d,
    \x7b name = \"forecast\", type = \"int\", serializer = \"crate::ListSerializer\" \x7d,
]

[[types]]
name = \"crate::Theme\"
kind = \"enum\"

[[types]]
name = \"crate::Celsius\"

[[types]]
name = \"crate::CelsiusSerializer\"
supertypes = [\"PreferenceSerializer<crate::Celsius, Integer>\"]

[[types]]
name = \"crate::List\"
kind = \"interface\"
params = [\"E\"]

[[types]]
name = \"crate::ListSerializer\"
params = [\"T: Number\"]
supertypes = [\"PreferenceSerializer<crate::List<T>, String>\"]
constructors = [[\"Class<T>\"]]
"

/-- A declaration without prefixes whose getters have no plain names. -/
def altDeclaration : String :=
  "[preferences]
name = \"Alt\"
fluent = false

[[preferences.groups]]
name = \"displayPanel\"
suffix = \"2\"
preferences = [
    \x7b name = \"isOpen\", type = \"boolean\" \x7d,
    \x7b name = \"maxWidth\", type = \"short\", default = 640 \x7d,
    \x7b name = \"mood\", type = \"crate::Mood\", default = \"blue\" \x7d,
]

[[types]]
name = \"crate::Mood\"
kind = \"enum\"
"

end TypedPrefs.Samples
