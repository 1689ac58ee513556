import TypedPrefs.Files.Path

/-!
# Trees of files

Programs read and write whole files through a `FileAccess`. A `FileTree` gives one in memory, with
the same refusals as a real file system.

`FileAccess` holds `read_to_string` and `write` of the standard library's file system, which are all
that the generator, its macros and its commands use of it.
-/

namespace TypedPrefs

/-- Reading and writing whole files in a monad. A refusal is a text that says why. -/
structure FileAccess (m : Type → Type) where
  /-- The content of the file at a path. -/
  read : String → m (Except String String)
  /-- Writes a file at a path. -/
  write : String → String → m (Except String Unit)

/-- Why a path cannot be used. -/
inductive FileFault where
  | notFound
  | notADirectory
  | isADirectory
  | nameTooLong
  /-- There is a NUL character in the path. -/
  | invalidPath
  deriving Repr, DecidableEq

/-- The wording of a fault, with the number the system has for it. -/
def FileFault.message : FileFault → String
  | .notFound => "No such file or directory (os error 2)"
  | .notADirectory => "Not a directory (os error 20)"
  | .isADirectory => "Is a directory (os error 21)"
  | .nameTooLong => "File name too long (os error 36)"
  | .invalidPath => "file name contained an unexpected NUL byte"

/-- What a name in a directory stands for. -/
inductive FileEntry where
  | file (content : String)
  | directory
  deriving Repr, DecidableEq

/-- Files and directories by their way from the root, and the directory that paths start from. -/
structure FileTree where
  entries : List (List String × FileEntry)
  workingDirectory : List String
  deriving Repr

namespace FileTree

/-- What is at the end of a way from the root. -/
def entry? (t : FileTree) (way : List String) : Option FileEntry :=
  if way.isEmpty then some .directory else t.entries.lookup way

/-- The tree with an entry put at the end of a way, in place of the one there. -/
def put (t : FileTree) (way : List String) (e : FileEntry) : FileTree :=
  { t with entries := (way, e) :: t.entries.filter fun other => other.1 != way }

/-- The most bytes that a name can have. -/
def maxNameSize : Nat := 255

/-- The number of bytes that no path reaches. -/
def maxPathSize : Nat := 4096

/-- One step from the end of a way. The root is its own parent. -/
def step (t : FileTree) (way : List String) (name : String) : Except FileFault (List String) :=
  match t.entry? way with
  | none => .error .notFound
  | some (.file _) => .error .notADirectory
  | some .directory =>
    if name = "." then .ok way
    else if name = ".." then .ok way.dropLast
    else if name.utf8ByteSize > maxNameSize then .error .nameTooLong
    else
      match t.entry? (way ++ [name]) with
      | none => .error .notFound
      | some _ => .ok (way ++ [name])

/-- The way from the root to the end of a path. -/
def locate (t : FileTree) (path : String) (names : List String) :
    Except FileFault (List String) :=
  if '\x00' ∈ path.toList then .error .invalidPath
  else if path.isEmpty then .error .notFound
  else if maxPathSize ≤ path.utf8ByteSize then .error .nameTooLong
  else names.foldlM t.step (if Files.isAbsolute path then [] else t.workingDirectory)

/-- The content of the file at a path. -/
def read (t : FileTree) (path : String) : Except FileFault String := do
  match t.entry? (← t.locate path (Files.steps path)) with
  | none => .error .notFound
  | some .directory => .error .isADirectory
  | some (.file content) =>
    if Files.endsWithSlash path then .error .notADirectory else .ok content

/-- The tree after a file is written at a path. Its directory must be there already. -/
def write (t : FileTree) (path content : String) : Except FileFault FileTree := do
  let names := Files.steps path
  let parent ← t.locate path names.dropLast
  match t.entry? parent, names.getLast? with
  | some .directory, some name =>
    if name = "." || name = ".." || Files.endsWithSlash path then .error .isADirectory
    else if name.utf8ByteSize > maxNameSize then .error .nameTooLong
    else if t.entry? (parent ++ [name]) = some .directory then .error .isADirectory
    else .ok (t.put (parent ++ [name]) (.file content))
  | some .directory, none => .error .isADirectory
  | some (.file _), _ => .error .notADirectory
  | none, _ => .error .notFound

/-- The access to a tree of files as a state. -/
def access : FileAccess (StateM FileTree) where
  read path := do return ((← get).read path).mapError FileFault.message
  write path content := do
    match (← get).write path content with
    | .error fault => return .error fault.message
    | .ok t =>
      set t
      return .ok ()

end FileTree

end TypedPrefs
