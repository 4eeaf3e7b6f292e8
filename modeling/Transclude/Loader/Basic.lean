import Transclude.Loader.Error
import Transclude.Loader.Loaded

namespace Transclude

/-- A loader with the state it keeps between batches. It gives the values of a batch in the same order, or an
error for the whole batch. -/
structure Loader (σ : Type) where
  load : List String → σ → Except LoadError (List Loaded) × σ

/-- A loader that also records the batches it is asked for, failing ones included. -/
def Loader.recorded {σ : Type} (l : Loader σ) : Loader (σ × List (List String)) where
  load batch state :=
    let (answer, next) := l.load batch state.1
    (answer, next, state.2 ++ [batch])

end Transclude
