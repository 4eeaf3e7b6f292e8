import Transclude.Directive.Hooks

namespace Transclude.Directive

/-- What becomes of an inclusion: its condition, if it has one, decides whether it stays. -/
def processInclusion (o : Options) (hooks : TagHooks) (tag : String) (attributes : Attributes)
    (identifier : String) : Except ResolveError Rewrite :=
  match attributes.get? "data-if" with
  | none => .ok (.included identifier attributes.data?)
  | some condition =>
    match hooks.processIf o ⟨condition, attributes, identifier, tag⟩ with
    | .error error => .error error
    | .ok true => .ok (.included identifier attributes.data?)
    | .ok false => .ok .removed

/-- What becomes of a tag. What a style or a dependency loads is recorded, and the tag is taken out; a tag
that is no directive stays as it is. -/
def processTag (o : Options) (hooks : TagHooks) (tag : String) (attributes : Attributes) :
    Except ResolveError Rewrite :=
  match hooks.filterTag o attributes, attributes.nonEmpty? "href" with
  | some kind, some href =>
    let identifier := kind.identifier href attributes o
    match kind with
    | .style => .ok (.dependency identifier)
    | .dependency => .ok (.dependency identifier)
    | .inclusion => processInclusion o hooks tag attributes identifier
  | _, _ => .ok (.unchanged tag)

end Transclude.Directive
