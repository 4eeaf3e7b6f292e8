import Transclude.Loader.Basic

namespace Transclude

/-- The values that are registered, by identifier. -/
structure Memory where
  values : Dict Loaded := []

namespace Memory

def register (m : Memory) (identifier : String) (value : Loaded) : Memory :=
  ⟨m.values.insert identifier value⟩

def ofList (values : List (String × Loaded)) : Memory :=
  ⟨Dict.ofList values⟩

/-- The value of one identifier. -/
def fetch (m : Memory) (identifier : String) : Except LoadError Loaded :=
  match m.values.get? identifier with
  | some value => .ok value
  | none => .error ((LoadError.notFound identifier).inStore "Memory")

/-- The values of a batch, or the error of the first identifier without one. -/
def load (m : Memory) (batch : List String) : Except LoadError (List Loaded) :=
  batch.mapM m.fetch

/-- The loader of the registered values; its state is the record of batches. -/
def loader (m : Memory) : Loader (List (List String)) where
  load batch requests := (m.load batch, requests ++ [batch])

end Memory

end Transclude
