import Transclude.Directive.Attributes
import Transclude.Identifier
import Transclude.Options.Basic

namespace Transclude

/-- What a directive is for. -/
inductive DirectiveKind where
  /-- A style sheet that the page needs. -/
  | style
  /-- Anything else that the page needs. -/
  | dependency
  /-- A document that is to stand in place of the tag. -/
  | inclusion
  deriving DecidableEq, Repr

namespace DirectiveKind

/-- The kind that a value of `rel` names, in ASCII letters of either case. -/
def ofRel? (rel : String) : Option DirectiveKind :=
  let rel := Attributes.lower rel.toList
  if rel = "stylesheet" ∨ rel = "css" then some .style
  else if rel = "require" ∨ rel = "x-require" then some .dependency
  else if rel = "include" ∨ rel = "x-include" then some .inclusion
  else none

/-- The identifier that a directive loads. A style goes through the style loader; a dependency through
the loader in `type`, if there is one; an inclusion through the loader in `type` or else the inclusion
loader, and it gets the extension of included documents. A loader in `href` itself goes before all. -/
def identifier (kind : DirectiveKind) (href : String) (attributes : Attributes) (o : Options) :
    String :=
  match kind with
  | .style => Identifier.withLoader href o.cssLoader
  | .dependency =>
    match attributes.nonEmpty? "type" with
    | some loader => if Identifier.hasLoader href then href else Identifier.withLoader href loader
    | none => href
  | .inclusion =>
    let loader := (attributes.nonEmpty? "type").getD o.inclusionLoader
    Identifier.withExtension (Identifier.withLoader href loader) o.defaultInclusionExt

end DirectiveKind

/-- The directive that a tag is: one with an `href` and a `rel` that names a kind. -/
def Attributes.kind? (a : Attributes) : Option DirectiveKind :=
  match a.nonEmpty? "href", a.get? "rel" with
  | some _, some rel => DirectiveKind.ofRel? rel
  | _, _ => none

end Transclude
