import Transclude.Text.Bytes
import Transclude.Text.Search

namespace Transclude

open Transclude.Text

/-- A tag that was found: its name, the byte offset of its opening and that of what follows it. -/
structure TagMatch where
  name : String
  position : Nat
  tagStart : Nat
  deriving DecidableEq, Repr

def opening (name : String) : List Char :=
  '<' :: name.toList ++ [' ']

/-- The leftmost opening of a tag in the part of a text that starts at a byte offset. -/
def TagMatch.first? (name : String) (start : Nat) (rest : List Char) : Option TagMatch :=
  (cut? (opening name) rest).map fun (before, _) =>
    ⟨name, start + size before, start + size before + size (opening name)⟩

/-- The one of two tags that starts first, or the one known before if they start together. -/
def TagMatch.earlier (best : Option TagMatch) (found : TagMatch) : Option TagMatch :=
  match best with
  | none => some found
  | some best => if found.position < best.position then some found else some best

/-- The first tag from a byte offset on that has one of the names; an empty name names no tag. -/
def findTag (names : List String) (text : String) (start : Nat) : Option TagMatch :=
  match splitAt? text.toList start with
  | none => none
  | some (_, rest) =>
    (names.filterMap fun name => if name.isEmpty then none else TagMatch.first? name start rest).foldl
      TagMatch.earlier none

end Transclude
