/-!
# Paths

Paths are texts in which `/` separates the names of directories and files. Repeated slashes count as
one, and `.` counts only where it stands first.
-/

namespace Transclude.Files

inductive Component where
  /-- The slash that an absolute path starts with. -/
  | root
  /-- A `.` in front. -/
  | here
  /-- A `..`, anywhere. -/
  | parent
  /-- Any other name. -/
  | name (s : String)
  deriving DecidableEq, Repr

/-- The names between the slashes of a path, empty ones included. -/
def segments (path : String) : List String :=
  (path.toList.splitOn '/').map String.ofList

def isAbsolute (path : String) : Bool :=
  path.toList.head? == some '/'

/-- The component that a name in a path is; an empty name and a `.` are none. -/
def Component.ofSegment? (s : String) : Option Component :=
  if s = "" ∨ s = "." then none
  else if s = ".." then some .parent
  else some (.name s)

/-- The components of a path. -/
def components (path : String) : List Component :=
  let start :=
    if isAbsolute path then [Component.root]
    else if (segments path).head? = some "." then [Component.here]
    else []
  start ++ (segments path).filterMap Component.ofSegment?

/-- The path that leads on from another one; an absolute path starts anew. -/
def join (base path : String) : String :=
  if isAbsolute path || base.isEmpty then path
  else if base.toList.getLast? == some '/' then base ++ path
  else base ++ "/" ++ path

end Transclude.Files
