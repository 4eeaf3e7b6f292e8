import Transclude.Identifier

namespace Transclude

open Transclude.Text

/-- Puts a content in the place of every placeholder of an identifier. -/
def fill (identifier content document : String) : String :=
  String.ofList
    (replaceAll (Identifier.placeholder identifier).toList content.toList document.toList)

/-- Puts contents in, one identifier after the other. A placeholder that an earlier content brings
along is filled as well. -/
def splice (contents : List (String × String)) (document : String) : String :=
  contents.foldl (fun document (identifier, content) => fill identifier content document) document

end Transclude
