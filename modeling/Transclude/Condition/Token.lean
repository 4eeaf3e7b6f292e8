import Transclude.Decimal.Layout
import Transclude.Text.Quoted

namespace Transclude

inductive Token where
  | name (s : String)
  | number (x : Float)
  | text (s : String)
  | not
  | equal
  | unequal
  | and
  | or
  | leftParen
  | rightParen
  | dot
  | leftBracket
  | rightBracket

/-- A token as messages show it. -/
def Token.describe : Token → String
  | .name s => "Ident(" ++ Text.quoted s ++ ")"
  | .number x => "Number(" ++ Decimal.Layout.pointed.write x ++ ")"
  | .text s => "Str(" ++ Text.quoted s ++ ")"
  | .not => "Not"
  | .equal => "Eq"
  | .unequal => "NotEq"
  | .and => "And"
  | .or => "Or"
  | .leftParen => "LParen"
  | .rightParen => "RParen"
  | .dot => "Dot"
  | .leftBracket => "LBracket"
  | .rightBracket => "RBracket"

end Transclude
