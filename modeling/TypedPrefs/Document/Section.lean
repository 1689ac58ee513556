import TypedPrefs.Document.Value
import TypedPrefs.SortedMap

/-!
# Building tables

A document is a row of lines: headers, which say what table follows, and pairs of a key and a value.
A table can be spread over several lines, but no line may define again what another one has defined,
and a table that one kind of line has made is closed to lines of other kinds.
-/

namespace TypedPrefs.Document

/-- How a table came to be. -/
inductive Origin where
  /-- By a header of its own, or between braces. It is closed to dotted keys from outside. -/
  | header
  /-- On the way to another table in a header. It may still get a header of its own. -/
  | passed
  /-- By a dotted key. Only dotted keys add pairs to it. -/
  | dotted
  deriving Repr, DecidableEq

mutual

/-- An entry of a table under construction. -/
inductive Node where
  | value (v : Value)
  | table (t : Section)
  /-- An array of tables, each with a header in double brackets: the earlier ones in reverse order,
  and the last one, which is still open. -/
  | elements (earlier : List Section) (last : Section)

/-- A table under construction. -/
inductive Section where
  | mk (origin : Origin) (entries : List (String × Node))

end

namespace Section

/-- How the table came to be. -/
def origin : Section → Origin
  | .mk origin _ => origin

/-- The entries of the table. -/
def entries : Section → List (String × Node)
  | .mk _ entries => entries

/-- A table without entries. -/
def empty (origin : Origin) : Section := .mk origin []

/-- The table with an entry put in. -/
def put (key : String) (n : Node) (t : Section) : Section :=
  .mk t.origin (Entries.put key n t.entries)

/-- The table with another origin. -/
def withOrigin (origin : Origin) (t : Section) : Section := .mk origin t.entries

/-- Changes the table at the end of a path from `t`. Tables that are not there are made. In an array
of tables the path goes into the last one. A dotted key cannot enter a table with a header. -/
def change (isDotted : Bool) (edit : Section → Option Section) :
    List String → Section → Option Section
  | [], t => edit t
  | key :: path, t =>
    match t.entries.lookup key with
    | none =>
      (change isDotted edit path (empty (if isDotted then .dotted else .passed))).map fun s =>
        t.put key (.table s)
    | some (.value _) => none
    | some (.table s) =>
      if isDotted && s.origin == .header then none
      else (change isDotted edit path s).map fun s => t.put key (.table s)
    | some (.elements earlier last) =>
      (change isDotted edit path last).map fun s => t.put key (.elements earlier s)

/-- Adds a pair at a dotted key. A key without dots belongs to the table itself, one with dots to a
table that dotted keys have made. -/
def addPair (path : List String) (key : String) (v : Value) : Section → Option Section :=
  change true
    (fun t =>
      if (t.origin == .dotted) == path.isEmpty then none
      else if (t.entries.lookup key).isSome then none
      else some (t.put key (.value v)))
    path

/-- Opens the table that a header names. -/
def openTable (path : List String) (key : String) : Section → Option Section :=
  change false
    (fun t =>
      match t.entries.lookup key with
      | none => some (t.put key (.table (empty .header)))
      | some (.table s) =>
        if s.origin == .passed then some (t.put key (.table (s.withOrigin .header))) else none
      | _ => none)
    path

/-- Opens the next table of the array that a header in double brackets names. -/
def openElement (path : List String) (key : String) : Section → Option Section :=
  change false
    (fun t =>
      match t.entries.lookup key with
      | none => some (t.put key (.elements [] (empty .header)))
      | some (.elements earlier last) =>
        some (t.put key (.elements (last :: earlier) (empty .header)))
      | _ => none)
    path

end Section

mutual

/-- The value of a finished entry. -/
def Node.toValue : Node → Value
  | .value v => v
  | .table t => .table t.toEntries
  | .elements earlier last => .array (sectionValues earlier [.table last.toEntries])

/-- The entries of a finished table. -/
def Section.toEntries : Section → List (String × Value)
  | .mk _ entries => entryValues entries

/-- The values of finished entries. -/
def entryValues : List (String × Node) → List (String × Value)
  | [] => []
  | (key, n) :: rest => (key, n.toValue) :: entryValues rest

/-- The values of finished tables in reverse order, in front of others. -/
def sectionValues : List Section → List Value → List Value
  | [], values => values
  | t :: rest, values => sectionValues rest (.table t.toEntries :: values)

end

/-- A line of a document. A path holds the parts of a dotted key before its last one. -/
inductive Line where
  | pair (path : List String) (key : String) (value : Value)
  | header (path : List String) (key : String)
  | element (path : List String) (key : String)

/-- A document up to some line: its tables and the path of the open one. -/
structure Draft where
  root : Section
  openPath : List String

/-- The document before its first line. -/
def Draft.empty : Draft := ⟨.empty .header, []⟩

/-- Takes in a line. -/
def Draft.add (d : Draft) : Line → Option Draft
  | .pair path key v => do
    let root ← Section.change false (Section.addPair path key v) d.openPath d.root
    some { d with root }
  | .header path key => do
    let root ← Section.openTable path key d.root
    some ⟨root, path ++ [key]⟩
  | .element path key => do
    let root ← Section.openElement path key d.root
    some ⟨root, path ++ [key]⟩

/-- The entries of the document with these lines, if they fit together. -/
def ofLines? (lines : List Line) : Option (List (String × Value)) :=
  (lines.foldlM Draft.add Draft.empty).map fun d => d.root.toEntries

end TypedPrefs.Document
