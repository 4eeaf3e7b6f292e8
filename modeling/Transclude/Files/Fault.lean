namespace Transclude.Files

/-- The classes of faults that readers tell apart. -/
inductive FaultKind where
  | notFound
  | invalidData
  | permissionDenied
  | other
  deriving DecidableEq, Repr

/-- Why reading a file failed. -/
inductive Fault where
  /-- Nothing has the name. -/
  | missing
  /-- A name in the middle of a path is not that of a directory. -/
  | notDirectory
  /-- The path leads to a directory, which has no text. -/
  | isDirectory
  /-- A name, or the whole path, is longer than the system allows. -/
  | nameTooLong
  /-- The path holds the character that ends a name. -/
  | nulInName
  /-- The bytes of the file are not UTF-8. -/
  | notText
  /-- Another party's fault, in its own words. -/
  | reported (kind : FaultKind) (text : String)
  deriving DecidableEq, Repr

def Fault.kind : Fault → FaultKind
  | .missing => .notFound
  | .notDirectory => .other
  | .isDirectory => .other
  | .nameTooLong => .other
  | .nulInName => .other
  | .notText => .invalidData
  | .reported kind _ => kind

def Fault.message : Fault → String
  | .missing => "No such file or directory (os error 2)"
  | .notDirectory => "Not a directory (os error 20)"
  | .isDirectory => "Is a directory (os error 21)"
  | .nameTooLong => "File name too long (os error 36)"
  | .nulInName => "file name contained an unexpected NUL byte"
  | .notText => "stream did not contain valid UTF-8"
  | .reported _ text => text

end Transclude.Files
