import Transclude.Decimal.Layout
import Transclude.Decimal.Literal

namespace Transclude

inductive Setting where
  | boolean (b : Bool)
  | number (x : Float)
  | text (s : String)
  | list (items : List String)

namespace Setting

/-- Reads `true` and `false` as truth values, a text of a finite number as that number, and any other
text as itself. -/
def infer (raw : String) : Setting :=
  if raw = "true" then .boolean true
  else if raw = "false" then .boolean false
  else match Decimal.read? raw.toList with
    | some x => if Decimal.isFinite x then .number x else .text raw
    | none => .text raw

/-- The name of the kind of a value. -/
def kind : Setting → String
  | .boolean _ => "boolean"
  | .number _ => "number"
  | .text _ => "string"
  | .list _ => "list"

/-- A value as messages show it. -/
def display : Setting → String
  | .boolean b => if b then "true" else "false"
  | .number x => Decimal.Layout.plain.write x
  | .text s => s
  | .list items => String.intercalate "," items

end Setting

end Transclude
