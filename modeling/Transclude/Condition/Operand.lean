import Transclude.Options.Setting

namespace Transclude

/-- A value that a condition works with. -/
inductive Operand where
  | null
  | boolean (b : Bool)
  | number (x : Float)
  | text (s : String)
  | list (items : List String)

namespace Operand

def ofSetting : Setting → Operand
  | .boolean b => .boolean b
  | .number x => .number x
  | .text s => .text s
  | .list items => .list items

/-- Whether an operand counts as true: null, false, zero, no number, and the empty text and list do
not. -/
def truthy : Operand → Bool
  | .null => false
  | .boolean b => b
  | .number x => x != 0.0 && !x.isNaN
  | .text s => !s.isEmpty
  | .list items => !items.isEmpty

/-- Whether two operands are equal. Operands of different kinds never are. -/
def same : Operand → Operand → Bool
  | .null, .null => true
  | .boolean a, .boolean b => a == b
  | .number a, .number b => a == b
  | .text a, .text b => a == b
  | .list a, .list b => a == b
  | _, _ => false

end Operand

end Transclude
