namespace Transclude

/-- Identifiers in the order in which they were first asked for, each once and none of them empty. -/
@[ext]
structure Dependencies where
  items : List String
  nodup : items.Nodup
  nonempty : "" ∉ items
  deriving DecidableEq, Repr

namespace Dependencies

def empty : Dependencies :=
  ⟨[], List.Pairwise.nil, List.not_mem_nil⟩

def contains (d : Dependencies) (identifier : String) : Bool :=
  d.items.contains identifier

theorem contains_iff {d : Dependencies} {identifier : String} :
    d.contains identifier = true ↔ identifier ∈ d.items := by
  simp [contains]

/-- Adds an identifier that is not empty and not there already. -/
def add (d : Dependencies) (identifier : String) (some : identifier ≠ "")
    (fresh : identifier ∉ d.items) : Dependencies where
  items := d.items ++ [identifier]
  nodup := List.nodup_append.2 ⟨d.nodup, by simp, by
    rintro a member b last rfl
    exact fresh (List.mem_singleton.1 last ▸ member)⟩
  nonempty := by simpa [d.nonempty] using Ne.symm some

/-- Adds an identifier and says whether the list got longer: an empty one and one that is there already
are not added. -/
def push (d : Dependencies) (identifier : String) : Dependencies × Bool :=
  if known : identifier = "" ∨ d.contains identifier = true then (d, false)
  else (d.add identifier (fun empty => known (.inl empty))
    fun member => known (.inr (contains_iff.2 member)), true)

def pushAll (d : Dependencies) (identifiers : List String) : Dependencies :=
  identifiers.foldl (fun d identifier => (d.push identifier).1) d

/-- The dependencies that a list of identifiers makes. -/
def ofList (identifiers : List String) : Dependencies :=
  empty.pushAll identifiers

end Dependencies

end Transclude
