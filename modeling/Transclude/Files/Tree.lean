import Transclude.Files.Fault
import Transclude.Files.Path

/-!
# A tree of files

The files that a host gives to the program: every file and every directory on the way to it. A path
is walked from the working directory one name at a time. Above the top of the tree nothing is known
but that there are directories.
-/

namespace Transclude.Files

/-- What stands under a name. -/
inductive Entry where
  | file (bytes : ByteArray)
  | directory

/-- Files and directories by the names that lead to them from the top, later entries first, with the
names that lead to the working directory. -/
structure Tree where
  entries : List (List String × Entry) := []
  working : List String := []

namespace Tree

/-- What the names from the top lead to. The top itself is a directory. -/
def entry? (t : Tree) (names : List String) : Option Entry :=
  if names = [] then some .directory else t.entries.lookup names

/-- Adds a directory and those above it, where they do not exist. -/
def addDirectory (t : Tree) (names : List String) : Tree :=
  (List.range names.length).foldl
    (fun t above =>
      let names := names.take (above + 1)
      if (t.entry? names).isSome then t else { t with entries := (names, .directory) :: t.entries }) t

/-- Adds a file and the directories above it, where they do not exist. -/
def addFile (t : Tree) (names : List String) (bytes : ByteArray) : Tree :=
  let t := t.addDirectory names.dropLast
  { t with entries := (names, .file bytes) :: t.entries }

/-- The names of a path, without those that lead nowhere else. -/
def names (path : String) : List String :=
  (segments path).filter fun s => s ≠ "" ∧ s ≠ "."

/-- A place that a walk has reached: within the tree, or some directories above its top. -/
inductive Place where
  | inside (names : List String)
  | above (levels : Nat)

/-- Goes one name further. -/
def walk (t : Tree) (place : Place) (name : String) : Except Fault Place :=
  match place with
  | .above levels =>
    if name = ".." then .ok (.above (levels + 1))
    else if 255 < name.utf8ByteSize then .error .nameTooLong
    else .error .missing
  | .inside names =>
    match t.entry? names with
    | none => .error .missing
    | some (.file _) => .error .notDirectory
    | some .directory =>
      if name = ".." then
        if names = [] then .ok (.above 1) else .ok (.inside names.dropLast)
      else if 255 < name.utf8ByteSize then .error .nameTooLong
      else if (t.entry? (names ++ [name])).isSome then .ok (.inside (names ++ [name]))
      else .error .missing

def walkAll (t : Tree) : Place → List String → Except Fault Place
  | place, [] => .ok place
  | place, name :: names =>
    match t.walk place name with
    | .ok place => t.walkAll place names
    | .error fault => .error fault

/-- What a path leads to from the working directory. A path that ends in a slash or a dot has to lead to
a directory. -/
def resolve (t : Tree) (path : String) : Except Fault Entry :=
  if path.toList.contains '\x00' then .error .nulInName
  else if path.isEmpty then .error .missing
  else if 4095 < path.utf8ByteSize then .error .nameTooLong
  else
    let start := if isAbsolute path then Place.above 0 else .inside t.working
    match t.walkAll start (names path) with
    | .error fault => .error fault
    | .ok (.above _) => .ok .directory
    | .ok (.inside names) =>
      match t.entry? names with
      | none => .error .missing
      | some .directory => .ok .directory
      | some (.file bytes) =>
        let last := (segments path).getLast?
        if last = some "" ∨ last = some "." then .error .notDirectory else .ok (.file bytes)

def contains (t : Tree) (path : String) : Bool :=
  match t.resolve path with
  | .ok _ => true
  | .error _ => false

def read (t : Tree) (path : String) : Except Fault String :=
  match t.resolve path with
  | .error fault => .error fault
  | .ok .directory => .error .isDirectory
  | .ok (.file bytes) =>
    match String.fromUTF8? bytes with
    | some text => .ok text
    | none => .error .notText

end Tree

end Transclude.Files
