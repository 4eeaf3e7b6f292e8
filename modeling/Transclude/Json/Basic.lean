import Transclude.Dict

namespace Transclude

/-- A data value. Whole numbers and fractions are told apart, since `1` and `1.0` are written
differently; the fields of an object stand by rising name. -/
inductive Json where
  | null
  | boolean (b : Bool)
  | integer (i : Int)
  | fraction (x : Float)
  | text (s : String)
  | array (items : List Json)
  | object (fields : List (String × Json))

instance : Inhabited Json := ⟨.null⟩

/-- The data that an including tag hands to the included document: texts by name. -/
abbrev Data := Dict String

def Json.ofData (data : Data) : Json :=
  .object (data.map fun (name, value) => (name, .text value))

end Transclude
