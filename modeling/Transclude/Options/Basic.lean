import Transclude.Dict
import Transclude.Options.Error

namespace Transclude

/-- The options of one resolution: a field for each recognized one, and all others under their names. -/
structure Options where
  cssLoader : String
  defaultExt : String
  defaultInclusionExt : String
  directiveTag : List String
  inclusionLoader : String
  strict : Bool
  /-- The options that are not recognized, by name. -/
  extra : Dict Setting

/-- What a run of settings leaves: the options reached, and the error it stopped at, if any. -/
structure Applied where
  options : Options
  stopped : Option ConfigError

/-- The outcome of a run, with the options only if nothing was refused. -/
def Applied.result (a : Applied) : Except ConfigError Options :=
  match a.stopped with
  | none => .ok a.options
  | some error => .error error

namespace Options

/-- The options of a host that sets none. -/
def builtin : Options where
  cssLoader := "css"
  defaultExt := "html"
  defaultInclusionExt := "html"
  directiveTag := ["link", "x-link"]
  inclusionLoader := "view"
  strict := false
  extra := []

/-- Gives a recognized option a value, if the value is of a kind it takes. -/
def assign? (o : Options) : OptionKey → Setting → Option Options
  | .cssLoader, .text s => some { o with cssLoader := s }
  | .defaultExt, .text s => some { o with defaultExt := s }
  | .defaultInclusionExt, .text s => some { o with defaultInclusionExt := s }
  | .directiveTag, .text s => some { o with directiveTag := [s] }
  | .directiveTag, .list items => some { o with directiveTag := items }
  | .inclusionLoader, .text s => some { o with inclusionLoader := s }
  | .strict, .boolean b => some { o with strict := b }
  | _, _ => none

def field (o : Options) : OptionKey → Setting
  | .cssLoader => .text o.cssLoader
  | .defaultExt => .text o.defaultExt
  | .defaultInclusionExt => .text o.defaultInclusionExt
  | .directiveTag => .list o.directiveTag
  | .inclusionLoader => .text o.inclusionLoader
  | .strict => .boolean o.strict

/-- Sets an option by name. A refusal leaves the options as they are. -/
def set (o : Options) (name : String) (value : Setting) : Applied :=
  match OptionKey.ofName? name with
  | some key =>
    match o.assign? key value with
    | some o => ⟨o, none⟩
    | none => ⟨o, some (.invalidValue key value)⟩
  | none => ⟨{ o with extra := o.extra.insert name value }, none⟩

/-- The value that an option of this name reads off a raw text. -/
def coerce (name raw : String) : Setting :=
  match OptionKey.ofName? name with
  | some key => key.coerce raw
  | none => Setting.infer raw

/-- Sets an option by name to what it reads off a raw text. -/
def setRaw (o : Options) (name raw : String) : Applied :=
  o.set name (coerce name raw)

def get? (o : Options) (name : String) : Option Setting :=
  match OptionKey.ofName? name with
  | some key => some (o.field key)
  | none => o.extra.get? name

/-- Makes settings one after the other up to the first one that is refused. -/
def run {α : Type} (step : Options → α → Applied) : Options → List α → Applied
  | o, [] => ⟨o, none⟩
  | o, item :: items =>
    match step o item with
    | ⟨o, none⟩ => run step o items
    | ⟨o, some error⟩ => ⟨o, some error⟩

/-- Sets options by name, in the order given. -/
def apply (o : Options) (values : List (String × Setting)) : Applied :=
  run (fun o (name, value) => o.set name value) o values

/-- Sets options by name to what they read off raw texts, in the order given. -/
def applyRaw (o : Options) (pairs : List (String × String)) : Applied :=
  run (fun o (name, raw) => o.setRaw name raw) o pairs

end Options

end Transclude
