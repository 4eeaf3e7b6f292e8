import Transclude.Files.Fault

namespace Transclude

/-- The classes of load errors. -/
inductive LoadErrorKind where
  | notFound
  | invalidIdentifier
  | unsupported
  | other
  deriving DecidableEq, Repr

def LoadErrorKind.label : LoadErrorKind → String
  | .notFound => "Not found"
  | .invalidIdentifier => "Invalid identifier"
  | .unsupported => "Unsupported"
  | .other => "Error"

/-- Why a batch could not be loaded: the class of the error and, where known, the identifier it is
about, the store it comes from and the words of its cause. -/
structure LoadError where
  kind : LoadErrorKind
  identifier : Option String := none
  backend : Option String := none
  cause : Option String := none
  deriving DecidableEq, Repr

namespace LoadError

/-- Nothing has the identifier. -/
def notFound (identifier : String) : LoadError :=
  { kind := .notFound, identifier := some identifier }

/-- The error that a fault of the file store is for an identifier. -/
def ofFault (fault : Files.Fault) (identifier : String) : LoadError where
  kind := match fault.kind with
    | .notFound => .notFound
    | .invalidData => .unsupported
    | .permissionDenied => .other
    | .other => .other
  identifier := some identifier
  cause := some fault.message

/-- Says which store an error comes from. -/
def inStore (e : LoadError) (backend : String) : LoadError :=
  { e with backend := some backend }

def message (e : LoadError) : String :=
  let store := match e.backend with
    | some backend => "[" ++ backend ++ "] "
    | none => ""
  let cause := match e.cause with
    | some cause => ": " ++ cause
    | none => ""
  let subject := match e.identifier with
    | some identifier => " (identifier: " ++ identifier ++ ")"
    | none => ""
  store ++ e.kind.label ++ cause ++ subject

end LoadError

end Transclude
