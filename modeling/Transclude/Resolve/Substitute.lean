import Transclude.Loader.Basic
import Transclude.Page.Basic
import Transclude.Page.Splice
import Transclude.Resolve.Error

namespace Transclude

namespace Page

/-- What an inclusion shows, given the values that were loaded. -/
def content (values : List (String × Loaded)) (inclusion : Inclusion) :
    Except ResolveError (String × String) :=
  match values.lookup inclusion.name with
  | none => .error (.missingValue inclusion.name)
  | some value =>
    match value.render inclusion.data with
    | .ok shown => .ok (inclusion.name, shown)
    | .error text => .error (.render inclusion.name text)

/-- The document that a page becomes with the values of its dependencies, in order. A dependency
without a value fails before any inclusion does. -/
def fill (p : Page) (loaded : List Loaded) : Except ResolveError String :=
  let values := p.dependencies.items.zip loaded
  match p.dependencies.items.find? fun identifier => (values.lookup identifier).isNone with
  | some identifier => .error (.missingValue identifier)
  | none =>
    match p.inclusions with
    | none => .ok p.resource
    | some inclusions =>
      match inclusions.entries.mapM (content values) with
      | .error error => .error error
      | .ok contents => .ok (splice contents p.resource)

/-- Loads what a page needs and makes it a document. -/
def substitute {σ : Type} (p : Page) (loader : Loader σ) (state : σ) :
    Except ResolveError String × σ :=
  if p.dependencies.items.isEmpty then (.ok p.resource, state)
  else match loader.load p.dependencies.items state with
    | (.error error, state) => (.error (.load error), state)
    | (.ok loaded, state) => (p.fill loaded, state)

end Page

end Transclude
