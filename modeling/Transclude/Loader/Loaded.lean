import Transclude.Json.Writer

namespace Transclude

/-- What a loader delivers for one identifier. A function answers with a value or fails with words of
its own. -/
inductive Loaded where
  | value (v : Json)
  | callable (f : Option Data → Except String Json)
  | executable (f : Option Data → Except String Json)

namespace Loaded

def text (s : String) : Loaded :=
  .value (.text s)

def text? : Loaded → Option String
  | .value (.text s) => some s
  | _ => none

/-- A value as it stands on a page. -/
def shown : Json → String
  | .text s => s
  | .null => ""
  | v => v.compact

/-- What a page shows of a loaded value for a tag with this data. -/
def render (l : Loaded) (data : Option Data) : Except String String :=
  match l with
  | .value v => .ok (shown v)
  | .callable f => (f data).map shown
  | .executable f => (f data).map shown

/-- A loaded value as messages show it. -/
def describe : Loaded → String
  | .value v => "Value(" ++ v.describe ++ ")"
  | .callable _ => "Callable(..)"
  | .executable _ => "Executable(..)"

end Loaded

end Transclude
