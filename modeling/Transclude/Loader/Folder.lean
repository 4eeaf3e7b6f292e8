import Transclude.Files.Path
import Transclude.Loader.Basic
import Transclude.Text.Letters
import Transclude.Text.Search

namespace Transclude

open Transclude.Text

/-- A root folder with the reader of its files. -/
structure Folder where
  root : String
  read : String → Except Files.Fault String

namespace Folder

/-- Whether a text can be the name of a loader. -/
def isLoaderName (name : List Char) : Bool :=
  !name.isEmpty && name.all fun c => isAlphanumeric c || c == '_'

/-- Takes the loader off an identifier that has one. -/
def withoutLoader (identifier : String) : String :=
  match splitOnce? '!' identifier.toList with
  | some (loader, path) => if isLoaderName loader then String.ofList path else identifier
  | none => identifier

/-- Whether a component stays where it is or goes further down. -/
def descends : Files.Component → Bool
  | .name _ => true
  | .here => true
  | .root => false
  | .parent => false

/-- The path of the file that an identifier names. -/
def filePath (f : Folder) (identifier : String) : Except LoadError String :=
  let path := withoutLoader identifier
  if path.isEmpty || !(Files.components path).all descends then
    .error { kind := .invalidIdentifier, identifier := some identifier, backend := some "Fs" }
  else .ok (Files.join f.root path)

def fetch (f : Folder) (identifier : String) : Except LoadError Loaded :=
  match f.filePath identifier with
  | .error error => .error error
  | .ok path =>
    match f.read path with
    | .ok text => .ok (.text text)
    | .error fault => .error ((LoadError.ofFault fault identifier).inStore "Fs")

/-- The texts of a batch, or the error of the first identifier that has none. -/
def load (f : Folder) (batch : List String) : Except LoadError (List Loaded) :=
  batch.mapM f.fetch

/-- The loader of a folder, which remembers nothing. -/
def loader (f : Folder) : Loader Unit where
  load batch state := (f.load batch, state)

end Folder

end Transclude
