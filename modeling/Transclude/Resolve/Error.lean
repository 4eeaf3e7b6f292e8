import Transclude.Condition.Error
import Transclude.Directive.Tag
import Transclude.Loader.Error
import Transclude.Options.Error

namespace Transclude

/-- Why a resource could not be resolved. -/
inductive ResolveError where
  /-- The options could not be set up. -/
  | config (error : ConfigError)
  /-- A batch could not be loaded. -/
  | load (error : LoadError)
  /-- A condition cannot be evaluated. -/
  | condition (expression : String) (cause : ConditionError)
  /-- The function that renders an inclusion failed, in its own words. -/
  | render (identifier : String) (text : String)
  /-- The loader delivered no value for an identifier. -/
  | missingValue (identifier : String)
  /-- The base document is no plain text. -/
  | notText (identifier : String)
  /-- A directive tag has no end, in strict mode. The position is that of its opening in the text as it
  stood when the tag was found. -/
  | unterminatedTag (position : Nat)
  /-- A host's own search answered with a place that is not in the text. -/
  | misplacedTag (found : TagMatch)
  /-- A host's own search did not get to the end of the text. -/
  | endlessSearch

def ResolveError.message : ResolveError → String
  | .config error => error.message
  | .load error => error.message
  | .condition expression cause =>
    "Invalid condition `" ++ expression ++ "`: " ++ cause.message
  | .render identifier text => "Failed to render inclusion " ++ identifier ++ ": " ++ text
  | .missingValue identifier => "No value loaded for " ++ identifier
  | .notText identifier => "Resource " ++ identifier ++ " did not load as text"
  | .unterminatedTag position => s!"Unterminated directive tag at byte {position}"
  | .misplacedTag found => s!"Misplaced directive tag at byte {found.position}"
  | .endlessSearch => "The search for directive tags does not end"

end Transclude
