import Transclude.Text.Letters
import Transclude.Text.Search

namespace Transclude.Identifier

open Transclude.Text

/-- Whether an identifier is `loader!path`: it starts with word characters, at least one, and a `!`. -/
def hasLoader (identifier : String) : Bool :=
  match splitOnce? '!' identifier.toList with
  | some (loader, _) => !loader.isEmpty && loader.all isWord
  | none => false

/-- What follows the last `/` or `!`. -/
def lastSegment (cs : List Char) : List Char :=
  (cs.reverse.takeWhile fun c => c != '/' && c != '!').reverse

/-- Whether the last segment has a dot that does not stand first in it. -/
def hasExtension (identifier : String) : Bool :=
  ((lastSegment identifier.toList).drop 1).contains '.'

/-- Puts an extension behind an identifier that has none. -/
def withExtension (identifier extension : String) : String :=
  if extension.isEmpty || hasExtension identifier then identifier
  else identifier ++ "." ++ extension

/-- Puts a loader in front of an identifier that has none. -/
def withLoader (identifier loader : String) : String :=
  if hasLoader identifier || loader.isEmpty then identifier
  else loader ++ "!" ++ identifier

/-- The text that stands for an inclusion until its content is known. -/
def placeholder (identifier : String) : String :=
  "<link rel=\"x-include\" href=\"" ++ identifier ++ "\">"

end Transclude.Identifier
