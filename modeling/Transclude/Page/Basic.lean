import Transclude.Page.Dependencies
import Transclude.Page.Inclusions

namespace Transclude

/-- A page whose directives are worked in: its text with a placeholder for every inclusion, what has to
be loaded for it, and its inclusions if it has any. -/
structure Page where
  resource : String
  dependencies : Dependencies := .empty
  inclusions : Option Inclusions := none
  deriving DecidableEq, Repr

end Transclude
