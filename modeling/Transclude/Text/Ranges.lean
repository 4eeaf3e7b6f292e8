namespace Transclude.Text

/-- Whether a code point lies in one of the ranges. A range that starts above it ends the search,
since the ranges rise. -/
def inRanges : List (Nat × Nat) → Nat → Bool
  | [], _ => false
  | (low, high) :: ranges, code =>
    if code < low then false else if code ≤ high then true else inRanges ranges code

/-- Ranges that rise and do not meet, all above a bound. -/
def Rising : Nat → List (Nat × Nat) → Prop
  | _, [] => True
  | bound, (low, high) :: ranges => bound ≤ low ∧ low ≤ high ∧ Rising (high + 1) ranges

instance decidableRising : ∀ (bound : Nat) (ranges : List (Nat × Nat)),
    Decidable (Rising bound ranges)
  | _, [] => isTrue trivial
  | bound, (low, high) :: ranges =>
    have := decidableRising (high + 1) ranges
    inferInstanceAs (Decidable (bound ≤ low ∧ low ≤ high ∧ Rising (high + 1) ranges))

theorem inRanges_eq_false_of_lt {bound code : Nat} (below : code < bound) :
    ∀ {ranges : List (Nat × Nat)}, Rising bound ranges → inRanges ranges code = false
  | [], _ => rfl
  | (low, high) :: _, rising => by
    have start : code < low := Nat.lt_of_lt_of_le below rising.1
    simp [inRanges, start]

/-- In rising ranges the search finds exactly the code points that some range holds. -/
theorem inRanges_eq_true_iff {code : Nat} : ∀ {bound : Nat} {ranges : List (Nat × Nat)},
    Rising bound ranges → (inRanges ranges code = true ↔ ∃ r ∈ ranges, r.1 ≤ code ∧ code ≤ r.2)
  | _, [], _ => by simp [inRanges]
  | _, (low, high) :: ranges, ⟨_, _, rising⟩ => by
    by_cases start : code < low
    · have outside : ∀ r ∈ ranges, ¬ (r.1 ≤ code ∧ code ≤ r.2) := by
        intro r member held
        have none := inRanges_eq_false_of_lt (by omega : code < high + 1) rising
        have found := (inRanges_eq_true_iff rising).2 ⟨r, member, held⟩
        simp [none] at found
      constructor
      · simp [inRanges, start]
      · rintro ⟨r, member, held⟩
        rcases List.mem_cons.1 member with rfl | later
        · exact absurd held.1 (by simpa using start)
        · exact absurd held (outside r later)
    · by_cases inside : code ≤ high
      · simp only [inRanges, start, inside, if_true, if_false, true_iff]
        exact ⟨(low, high), by simp, by simpa using start, inside⟩
      · simp only [inRanges, start, inside, if_false, inRanges_eq_true_iff rising]
        constructor
        · rintro ⟨r, member, held⟩
          exact ⟨r, by simp [member], held⟩
        · rintro ⟨r, member, held⟩
          rcases List.mem_cons.1 member with rfl | later
          · exact absurd held.2 inside
          · exact ⟨r, later, held⟩

/-- Ranges of code points that rise and do not meet. -/
structure Table where
  ranges : List (Nat × Nat)
  rising : Rising 0 ranges

namespace Table

def holds (t : Table) (code : Nat) : Bool :=
  inRanges t.ranges code

theorem holds_iff {t : Table} {code : Nat} :
    t.holds code = true ↔ ∃ r ∈ t.ranges, r.1 ≤ code ∧ code ≤ r.2 :=
  inRanges_eq_true_iff t.rising

/-- What lies in a table lies in one whose ranges hold those of the first. -/
theorem holds_of_covered {t u : Table} {code : Nat}
    (covered : ∀ r ∈ t.ranges, ∃ s ∈ u.ranges, s.1 ≤ r.1 ∧ r.2 ≤ s.2) (inside : t.holds code = true) :
    u.holds code = true := by
  obtain ⟨r, member, low, high⟩ := holds_iff.1 inside
  obtain ⟨s, member', low', high'⟩ := covered r member
  exact holds_iff.2 ⟨s, member', by omega, by omega⟩

end Table

end Transclude.Text
