import Transclude.Options.Suffix
import Transclude.Options.Toml

namespace Transclude

/-- What a host configures: option values by rising name. -/
structure Host where
  values : Dict Setting
  sorted : values.Sorted

namespace Host

def empty : Host :=
  ⟨[], List.Pairwise.nil⟩

def set (h : Host) (name : String) (value : Setting) : Host :=
  ⟨h.values.insert name value, Dict.sorted_insert h.sorted name value⟩

def get? (h : Host) (name : String) : Option Setting :=
  h.values.get? name

def isEmpty (h : Host) : Bool :=
  h.values.isEmpty

/-- Configures options one after the other. -/
def ofList (values : List (String × Setting)) : Host :=
  ⟨Dict.ofList values, Dict.sorted_ofList values⟩

def ofToml (text : String) : Except ConfigError Host :=
  match Toml.read? text with
  | some entries => .ok (ofList entries)
  | none => .error .malformed

end Host

namespace Options

/-- The options of a call: the defaults, over them the host's values by rising name, over those the
suffix. The first value that is refused fails the call. -/
def layered (defaults : Options) (host : Host) (suffix : Option String) :
    Except ConfigError Options :=
  match (defaults.apply host.values).result with
  | .error error => .error error
  | .ok o =>
    match suffix with
    | none => .ok o
    | some suffix => (o.applySuffix suffix).result

end Options

end Transclude
