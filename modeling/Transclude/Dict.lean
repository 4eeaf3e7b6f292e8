namespace Transclude

/-- Entries by rising key, each key once. Keys are compared by code point, which is also the order of their
UTF-8 bytes. -/
abbrev Dict (α : Type) := List (String × α)

namespace Dict

variable {α : Type}

def get? : Dict α → String → Option α
  | [], _ => none
  | (k, v) :: entries, key => if k = key then some v else get? entries key

def contains (d : Dict α) (key : String) : Bool :=
  (d.get? key).isSome

/-- Gives a key a value, in place of the one it had. -/
def insert : Dict α → String → α → Dict α
  | [], key, value => [(key, value)]
  | (k, v) :: entries, key, value =>
    if key < k then (key, value) :: (k, v) :: entries
    else if key = k then (key, value) :: entries
    else (k, v) :: insert entries key value

/-- Gives a key a value unless it has one. -/
def insertNew (d : Dict α) (key : String) (value : α) : Dict α :=
  if d.contains key then d else d.insert key value

/-- The dictionary of a list of entries, of which a later one replaces an earlier one. -/
def ofList (entries : List (String × α)) : Dict α :=
  entries.foldl (fun d entry => d.insert entry.1 entry.2) []

/-- Keys rise from entry to entry. -/
def Sorted (d : Dict α) : Prop :=
  d.Pairwise fun a b => a.1 < b.1

@[simp] theorem get?_nil (key : String) : get? ([] : Dict α) key = none := rfl

theorem get?_insert (d : Dict α) (key other : String) (value : α) :
    (d.insert key value).get? other = if key = other then some value else d.get? other := by
  induction d with
  | nil => by_cases same : key = other <;> simp [insert, get?, same]
  | cons entry entries ih =>
    obtain ⟨k, v⟩ := entry
    by_cases less : key < k
    · rw [insert, if_pos less, get?]
    · rw [insert, if_neg less]
      by_cases equal : key = k
      · rw [if_pos equal, get?, get?, equal]
        by_cases same : k = other <;> simp [same]
      · rw [if_neg equal, get?, get?, ih]
        by_cases same : k = other
        · simp [same, show key ≠ other from same ▸ equal]
        · simp [same]

theorem get?_insertNew (d : Dict α) (key other : String) (value : α) :
    (d.insertNew key value).get? other =
      if key = other then some ((d.get? key).getD value) else d.get? other := by
  unfold insertNew contains
  cases held : d.get? key with
  | none => simp [get?_insert]
  | some v =>
    by_cases same : key = other
    · subst same; simp [held]
    · simp [same]

theorem mem_insert {d : Dict α} {key : String} {value : α} {entry : String × α}
    (member : entry ∈ d.insert key value) : entry = (key, value) ∨ entry ∈ d := by
  fun_induction insert d key value with
  | case1 => exact Or.inl (by simpa using member)
  | case2 k v entries key value less => exact List.mem_cons.1 member
  | case3 v entries key value =>
    exact (List.mem_cons.1 member).imp_right (List.mem_cons_of_mem _)
  | case4 k v entries key value _ _ ih =>
    rcases List.mem_cons.1 member with rfl | later
    · exact Or.inr (by simp)
    · exact (ih later).imp_right (List.mem_cons_of_mem _)

theorem sorted_insert {d : Dict α} (sorted : d.Sorted) (key : String) (value : α) :
    (d.insert key value).Sorted := by
  unfold Sorted at *
  induction d with
  | nil => simp [insert]
  | cons entry entries ih =>
    obtain ⟨k, v⟩ := entry
    obtain ⟨first, later⟩ := List.pairwise_cons.1 sorted
    by_cases less : key < k
    · rw [insert, if_pos less]
      refine List.pairwise_cons.2 ⟨?_, sorted⟩
      intro other member
      rcases List.mem_cons.1 member with rfl | member
      · exact less
      · exact String.lt_trans less (first other member)
    · by_cases equal : key = k
      · subst equal
        rw [insert, if_neg less, if_pos rfl]
        exact List.pairwise_cons.2 ⟨first, later⟩
      · rw [insert, if_neg less, if_neg equal]
        refine List.pairwise_cons.2 ⟨?_, ih later⟩
        intro other member
        rcases mem_insert member with rfl | member
        · by_cases above : k < key
          · exact above
          · exact absurd (String.le_antisymm (String.not_lt.1 above) (String.not_lt.1 less)) equal
        · exact first other member

theorem sorted_insertNew {d : Dict α} (sorted : d.Sorted) (key : String) (value : α) :
    (d.insertNew key value).Sorted := by
  unfold insertNew
  split
  · exact sorted
  · exact sorted_insert sorted key value

theorem sorted_ofList (entries : List (String × α)) : (ofList entries).Sorted := by
  have kept : ∀ d : Dict α, d.Sorted →
      Sorted (entries.foldl (fun d entry => d.insert entry.1 entry.2) d) := by
    induction entries with
    | nil => exact fun d sorted => sorted
    | cons entry entries ih => exact fun d sorted => ih _ (sorted_insert sorted entry.1 entry.2)
  exact kept [] List.Pairwise.nil

theorem get?_eq_none_of_lt {d : Dict α} {key : String} (above : ∀ entry ∈ d, key < entry.1) :
    d.get? key = none := by
  induction d with
  | nil => rfl
  | cons entry entries ih =>
    obtain ⟨k, v⟩ := entry
    have apart : k ≠ key := by
      rintro rfl
      exact String.lt_irrefl k (above (k, v) List.mem_cons_self)
    rw [get?, if_neg apart]
    exact ih fun other member => above other (List.mem_cons_of_mem _ member)

/-- In a dictionary with rising keys an entry is what its key is looked up as. -/
theorem mem_iff_get? {d : Dict α} (sorted : d.Sorted) {key : String} {value : α} :
    (key, value) ∈ d ↔ d.get? key = some value := by
  induction d with
  | nil => simp
  | cons entry entries ih =>
    obtain ⟨k, v⟩ := entry
    obtain ⟨first, later⟩ := List.pairwise_cons.1 sorted
    rw [get?, List.mem_cons, ih later]
    by_cases same : k = key
    · subst same
      simp [get?_eq_none_of_lt first, eq_comm]
    · simp [same, Ne.symm same]

theorem lookup_cons (key k : String) (v : α) (entries : List (String × α)) :
    List.lookup key ((k, v) :: entries) = if k = key then some v else List.lookup key entries := by
  rw [List.lookup_cons]
  by_cases same : k = key
  · simp [same]
  · have apart : (key == k) = false := by simpa using Ne.symm same
    simp [same, apart]

/-- In a dictionary with rising keys it is all the same from which end a key is looked for. -/
theorem lookup_reverse {d : Dict α} (sorted : d.Sorted) (key : String) :
    List.lookup key d.reverse = d.get? key := by
  induction d with
  | nil => rfl
  | cons entry entries ih =>
    obtain ⟨k, v⟩ := entry
    obtain ⟨first, later⟩ := List.pairwise_cons.1 sorted
    rw [get?, List.reverse_cons, List.lookup_append, ih later]
    by_cases same : k = key
    · subst same
      simp [get?_eq_none_of_lt first]
    · simp [lookup_cons, same]

end Dict

end Transclude
