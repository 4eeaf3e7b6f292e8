import Transclude.Directive.Rewrite

namespace Transclude

/-- Inclusions in the order in which they were first named, each name once. -/
@[ext]
structure Inclusions where
  entries : List Inclusion
  distinct : (entries.map (·.name)).Nodup
  deriving DecidableEq, Repr

namespace Inclusions

def empty : Inclusions where
  entries := []
  distinct := by
    rw [List.map_nil]
    exact List.Pairwise.nil

def get? (r : Inclusions) (name : String) : Option Inclusion :=
  r.entries.find? fun entry => entry.name = name

/-- Adds an inclusion whose name is not there already. -/
def add (r : Inclusions) (inclusion : Inclusion) (fresh : inclusion.name ∉ r.entries.map (·.name)) :
    Inclusions where
  entries := r.entries ++ [inclusion]
  distinct := by
    rw [List.map_append]
    refine List.nodup_append.2 ⟨r.distinct, by simp, ?_⟩
    rintro a member b last rfl
    obtain rfl : a = inclusion.name := List.mem_singleton.1 last
    exact fresh member

/-- Adds an inclusion and says whether it was added: one whose name is there already is not. -/
def insert (r : Inclusions) (inclusion : Inclusion) : Inclusions × Bool :=
  if known : inclusion.name ∈ r.entries.map (·.name) then (r, false)
  else (r.add inclusion known, true)

def insertAny (r : Inclusions) : Option Inclusion → Inclusions
  | some inclusion => (r.insert inclusion).1
  | none => r

/-- The inclusions that a list makes. -/
def ofList (entries : List Inclusion) : Inclusions :=
  entries.foldl (fun r inclusion => (r.insert inclusion).1) empty

end Inclusions

end Transclude
