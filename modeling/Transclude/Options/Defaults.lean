import Transclude.Options.Basic

namespace Transclude

/-- The options that calls start from. Every call takes a copy, so that a change never reaches a call that
has begun. -/
structure Defaults where
  current : Options := Options.builtin

namespace Defaults

/-- The defaults of a process that has changed none. -/
def initial : Defaults := {}

/-- Replaces one default. A value that is refused changes nothing. -/
def replace (d : Defaults) (name : String) (value : Setting) : Defaults × Option ConfigError :=
  match d.current.set name value with
  | ⟨options, none⟩ => (⟨options⟩, none)
  | ⟨_, some error⟩ => (d, some error)

def reset (_ : Defaults) : Defaults :=
  initial

end Defaults

end Transclude
