import Transclude.Options.Setting
import Transclude.Text.Blank

namespace Transclude

open Transclude.Text

/-- The options that the engine itself looks at. -/
inductive OptionKey where
  /-- The loader of style directives. -/
  | cssLoader
  /-- The extension of the base document. -/
  | defaultExt
  /-- The extension of included documents. -/
  | defaultInclusionExt
  /-- The names of the tags that are directives. -/
  | directiveTag
  /-- The loader of included documents. -/
  | inclusionLoader
  /-- Whether a tag without an end is an error. -/
  | strict
  deriving DecidableEq, Repr

namespace OptionKey

def name : OptionKey → String
  | .cssLoader => "cssLoader"
  | .defaultExt => "defaultExt"
  | .defaultInclusionExt => "defaultInclusionExt"
  | .directiveTag => "directiveTag"
  | .inclusionLoader => "inclusionLoader"
  | .strict => "strict"

def all : List OptionKey :=
  [.cssLoader, .defaultExt, .defaultInclusionExt, .directiveTag, .inclusionLoader, .strict]

/-- The recognized option of a name. -/
def ofName? (name : String) : Option OptionKey :=
  all.find? fun key => key.name = name

theorem ofName?_name (key : OptionKey) : ofName? key.name = some key := by
  cases key <;> decide

theorem ofName?_eq_some_iff {name : String} {key : OptionKey} :
    ofName? name = some key ↔ key.name = name := by
  constructor
  · intro found
    simpa using List.find?_some found
  · rintro rfl
    exact ofName?_name key

/-- The kinds of value that an option takes, as messages say it. -/
def expected : OptionKey → String
  | .directiveTag => "string or list"
  | .strict => "boolean"
  | _ => "string"

/-- The names in a list that is written with commas; blanks around a name do not count, and a name
that is nothing else is left out. -/
def names (raw : String) : List String :=
  ((raw.toList.splitOn ',').map trim |>.filter fun name => !name.isEmpty).map String.ofList

/-- How a recognized option reads a raw text. A text that `strict` cannot read stays a text, which is
then refused. -/
def coerce (key : OptionKey) (raw : String) : Setting :=
  match key with
  | .directiveTag => .list (names raw)
  | .strict =>
    if raw = "true" ∨ raw = "1" then .boolean true
    else if raw = "false" ∨ raw = "0" ∨ raw = "" then .boolean false
    else .text raw
  | _ => .text raw

end OptionKey

end Transclude
