import Transclude.Files.Tree
import Transclude.Options.Host

namespace Transclude.Host

open Transclude.Files

def fileName : String := "xlink.toml"

def ofFile (t : Tree) (path : String) : Except ConfigError Host :=
  match t.read path with
  | .error fault => .error (.unreadable fault)
  | .ok text => ofToml text

/-- The nearest directory, from the one given upwards, in which something has the usual name. -/
def nearest? (t : Tree) (names : List String) : Option (List String) :=
  if (t.entry? (names ++ [fileName])).isSome then some names
  else if names.length = 0 then none
  else nearest? t names.dropLast
termination_by names.length
decreasing_by
  have shorter : names.dropLast.length = names.length - 1 := List.length_dropLast
  omega

/-- The host's configuration, from the file that is named or else from the nearest one. Without any
file nothing is configured; a named file has to exist. -/
def load (t : Tree) (path : Option String) : Except ConfigError Host :=
  match path with
  | some path => if t.contains path then ofFile t path else .error (.notFound path)
  | none =>
    match nearest? t t.working with
    | some names => ofFile { t with working := names } fileName
    | none => .ok empty

end Transclude.Host
