import TypedPrefs.Text.Pieces

/-!
# Paths

A path is a text: names with slashes between them. One that begins with a slash starts at the root,
any other at the working directory.
-/

namespace TypedPrefs.Files

/-- Whether a path starts at the root. -/
def isAbsolute (path : String) : Bool := path.toList.head? = some '/'

/-- A path as seen from a directory. An absolute path stays as it is. -/
def join (directory path : String) : String :=
  if isAbsolute path || directory.isEmpty then path
  else if directory.toList.getLast? = some '/' then directory ++ path
  else directory ++ "/" ++ path

/-- The names of a path, without the empty ones. -/
def steps (path : String) : List String := (Text.splitAtChar '/' path).filter (!·.isEmpty)

/-- Whether a path ends with a slash, and so can only mean a directory. -/
def endsWithSlash (path : String) : Bool := path.toList.getLast? = some '/'

theorem join_of_isAbsolute {path : String} (h : isAbsolute path = true) (directory : String) :
    join directory path = path := by
  simp [join, h]

end TypedPrefs.Files
