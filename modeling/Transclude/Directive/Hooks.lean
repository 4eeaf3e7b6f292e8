import Transclude.Condition.Evaluate
import Transclude.Directive.Kind
import Transclude.Page.Basic

namespace Transclude

/-- What a rule for conditions can look at. -/
structure ConditionContext where
  /-- The text of the condition. -/
  condition : String
  attributes : Attributes
  /-- The identifier of the inclusion that the condition is about. -/
  identifier : String
  /-- The text of the whole tag. -/
  tag : String

/-- The rules that rest on no other. -/
structure TagHooks where
  /-- Finds the first tag in a text from a byte offset on. -/
  findTag : Options → String → Nat → Option TagMatch
  /-- Says which directive a tag is, if it is one. -/
  filterTag : Options → Attributes → Option DirectiveKind
  /-- Says whether an inclusion with a condition stays. -/
  processIf : Options → ConditionContext → Except ResolveError Bool

structure PassHooks extends TagHooks where
  /-- Says what becomes of a tag. -/
  processTag : Options → TagHooks → String → Attributes → Except ResolveError Rewrite

structure Hooks extends PassHooks where
  /-- Works the directives of a text in. -/
  parse : Options → PassHooks → String → Except ResolveError Page

/-- The options and rules of one call. -/
structure Settings where
  options : Options
  hooks : Hooks

end Transclude
