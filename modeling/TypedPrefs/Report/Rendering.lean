import TypedPrefs.Report.Diagnostic

/-!
# Reports

Diagnostics as text, one line each and a summary, and in the JSON format.

`Report.text` is `render_text` of the command `check`, and `Report.json` is `render_json`.
-/

namespace TypedPrefs.Report

/-- The last line of a report as text. -/
def summary (ds : List Diagnostic) : String :=
  if ds.isEmpty then "ok: no problems found"
  else
    let errors := Diagnostic.countErrors ds
    toString errors ++ " error(s), " ++ toString (ds.length - errors) ++ " warning(s)"

/-- Diagnostics as text: a line for each and the summary. -/
def text [Parsers] (ds : List Diagnostic) : String :=
  String.join ((ds.map Diagnostic.display ++ [summary ds]).map fun line => line ++ "\n")

/-- The hexadecimal digits of a number below 65536. -/
def fourDigits (n : Nat) : List Char :=
  let digits := Nat.toDigits 16 n
  List.replicate (4 - digits.length) '0' ++ digits

/-- How a character is written in a JSON string. -/
def encodeChar (c : Char) : List Char :=
  if c = '"' then ['\\', '"']
  else if c = '\\' then ['\\', '\\']
  else if c = '\x08' then ['\\', 'b']
  else if c = '\x0c' then ['\\', 'f']
  else if c = '\n' then ['\\', 'n']
  else if c = '\r' then ['\\', 'r']
  else if c = '\t' then ['\\', 't']
  else if c < ' ' then ['\\', 'u'] ++ fourDigits c.toNat
  else [c]

/-- A JSON string. -/
def quoted (s : String) : String :=
  String.ofList (['"'] ++ s.toList.flatMap encodeChar ++ ['"'])

/-- A line with blanks in front and a line feed behind. -/
def line (indent : Nat) (s : String) : String :=
  String.ofList (List.replicate indent ' ') ++ s ++ "\n"

/-- A place as the lines of a JSON object behind its key. -/
def locationLines (l : Location) : String :=
  line 4 "\"location\": \x7b" ++
    (match l.name? with
      | some name =>
        line 6 ("\"path\": " ++ quoted l.path ++ ",") ++ line 6 ("\"name\": " ++ quoted name)
      | none => line 6 ("\"path\": " ++ quoted l.path)) ++
    line 4 "\x7d,"

/-- A diagnostic as the lines of a JSON object, with what stands behind its closing brace. -/
def diagnosticLines [Parsers] (separator : String) (d : Diagnostic) : String :=
  line 2 "\x7b" ++ line 4 ("\"severity\": " ++ quoted d.severity.name ++ ",") ++
    locationLines d.location ++ line 4 ("\"message\": " ++ quoted d.message.wording) ++
    line 2 ("\x7d" ++ separator)

/-- Diagnostics as the lines of a JSON array. -/
def arrayLines [Parsers] : List Diagnostic → String
  | [] => ""
  | [d] => diagnosticLines "" d
  | d :: rest => diagnosticLines "," d ++ arrayLines rest

/-- Diagnostics in the JSON format. -/
def json [Parsers] (ds : List Diagnostic) : String :=
  if ds.isEmpty then "[]" else "[\n" ++ arrayLines ds ++ "]"

end TypedPrefs.Report
