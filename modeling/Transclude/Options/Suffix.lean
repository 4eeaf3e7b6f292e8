import Transclude.Options.Basic
import Transclude.Text.Search

namespace Transclude.Suffix

open Transclude.Text

/-- Splits a resource at its first `!` into its name and the suffix, if it has one. -/
def split (resource : String) : String × Option String :=
  match splitOnce? '!' resource.toList with
  | some (name, suffix) => (String.ofList name, some (String.ofList suffix))
  | none => (resource, none)

/-- Reads one segment of a suffix. A key without `=` stands for `key=true`, and a segment without a key says
nothing. -/
def pair? (segment : List Char) : Option (String × String) :=
  let segment := trim segment
  if segment.isEmpty then none
  else match splitOnce? '=' segment with
    | none => some (String.ofList segment, "true")
    | some (key, value) =>
      let key := trim key
      if key.isEmpty then none else some (String.ofList key, String.ofList (trim value))

/-- The keys and values of a suffix, in order and with repeats. -/
def pairs (suffix : String) : List (String × String) :=
  (suffix.toList.splitOn ';').filterMap pair?

end Transclude.Suffix

namespace Transclude.Options

/-- Sets the options that a suffix names. -/
def applySuffix (o : Options) (suffix : String) : Applied :=
  o.applyRaw (Suffix.pairs suffix)

end Transclude.Options
