import Transclude.Options.Host
import Transclude.Page.Parse
import Transclude.Resolve.Substitute

namespace Transclude

/-- What a call for a resource works with. -/
structure Request where
  /-- The defaults of the process. -/
  defaults : Options
  /-- The host's configuration. -/
  host : Host
  /-- The host's rules. -/
  hooks : Hooks
  /-- The name of the resource with its suffix. -/
  resource : String

namespace Request

/-- The options and rules of the call, in layers. -/
def settings (r : Request) : Except ConfigError Settings :=
  (Options.layered r.defaults r.host (Suffix.split r.resource).2).map fun options =>
    ⟨options, r.hooks⟩

/-- The identifier of the base document. -/
def identifier (r : Request) (o : Options) : String :=
  "text!" ++ Identifier.withExtension (Suffix.split r.resource).1 o.defaultExt

/-- The page that the loaded base document is. -/
def page (r : Request) (s : Settings) (loaded : List Loaded) : Except ResolveError Page :=
  match loaded with
  | [] => .error (.missingValue (r.identifier s.options))
  | base :: _ =>
    match base.text? with
    | none => .error (.notText (r.identifier s.options))
    | some text => s.hooks.parse s.options s.hooks.toPassHooks text

def resolve {σ : Type} (r : Request) (loader : Loader σ) (state : σ) :
    Except ResolveError String × σ :=
  match r.settings with
  | .error error => (.error (.config error), state)
  | .ok s =>
    match loader.load [r.identifier s.options] state with
    | (.error error, state) => (.error (.load error), state)
    | (.ok loaded, state) =>
      match r.page s loaded with
      | .error error => (.error error, state)
      | .ok page => page.substitute loader state

/-- Resolves a resource and hands its document over; there is nothing to hand over if it fails. -/
def resolveWith {σ τ : Type} (r : Request) (loader : Loader σ) (deliver : String → τ → τ)
    (state : σ) (receiver : τ) : Except ResolveError Unit × σ × τ :=
  match r.resolve loader state with
  | (.ok document, state) => (.ok (), state, deliver document receiver)
  | (.error error, state) => (.error error, state, receiver)

end Request

/-- A loader, a host configuration and rules, for one call after the other. -/
structure Resolver (σ : Type) where
  loader : Loader σ
  host : Host := Host.empty
  hooks : Hooks := Hooks.builtin

namespace Resolver

def resolve {σ : Type} (v : Resolver σ) (defaults : Options) (resource : String) (state : σ) :
    Except ResolveError String × σ :=
  Request.resolve ⟨defaults, v.host, v.hooks, resource⟩ v.loader state

/-- Resolves one resource after the other, each with the state that the one before left. -/
def resolveAll {σ : Type} (v : Resolver σ) (defaults : Options) :
    List String → σ → List (Except ResolveError String) × σ
  | [], state => ([], state)
  | resource :: resources, state =>
    let (answer, state) := v.resolve defaults resource state
    let (answers, state) := v.resolveAll defaults resources state
    (answer :: answers, state)

end Resolver

end Transclude
