import Transclude.Identifier
import Transclude.Json.Basic

namespace Transclude

/-- A document that is to stand in the page, with the data that the tag hands to it. -/
structure Inclusion where
  name : String
  data : Option Data
  deriving DecidableEq, Repr

/-- What becomes of a tag: what has to be loaded for it, the document it includes, and the text in its
place. -/
structure Rewrite where
  dependencies : List String
  inclusion : Option Inclusion
  text : String
  deriving DecidableEq, Repr

namespace Rewrite

def unchanged (tag : String) : Rewrite :=
  ⟨[], none, tag⟩

def removed : Rewrite :=
  ⟨[], none, ""⟩

/-- A tag that is taken out and for which something has to be loaded. -/
def dependency (identifier : String) : Rewrite :=
  ⟨[identifier], none, ""⟩

/-- A tag in whose place a document is to stand. -/
def included (identifier : String) (data : Option Data) : Rewrite :=
  ⟨[identifier], some ⟨identifier, data⟩, Identifier.placeholder identifier⟩

end Rewrite

end Transclude
