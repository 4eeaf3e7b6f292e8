import Mathlib.Data.List.Basic
import Transclude.Files.Tree

namespace Transclude.Files

/-- A name of a file or directory: not empty, neither `.` nor `..`, and without a slash. -/
def Ordinary (name : String) : Prop :=
  name ≠ "" ∧ name ≠ "." ∧ name ≠ ".." ∧ '/' ∉ name.toList

/-- The components of a path that lead somewhere: all but a `.` in front. -/
def moves (path : String) : List Component :=
  (components path).filter (· ≠ .here)

theorem segments_append_slash (a b : String) : segments (a ++ "/" ++ b) = segments a ++ segments b := by
  have whole : (a ++ "/" ++ b).toList = a.toList ++ '/' :: b.toList := by simp
  rw [segments, whole, List.splitOn_append_cons_self, List.map_append]
  rfl

private theorem not_mem_of_mem_splitOn {c : Char} {cs : List Char} :
    ∀ part ∈ cs.splitOn c, c ∉ part := by
  induction cs with
  | nil => simp
  | cons d cs ih =>
    rw [List.splitOn_cons_eq_if_modifyHead]
    by_cases here : d = c
    · rw [if_pos (by simpa using here)]
      intro part member
      rcases List.mem_cons.1 member with rfl | later
      · exact List.not_mem_nil
      · exact ih part later
    · rw [if_neg (by simpa using here)]
      obtain ⟨first, others, parts⟩ := List.exists_cons_of_ne_nil (List.splitOn_ne_nil c cs)
      rw [parts] at ih ⊢
      intro part member
      rcases List.mem_cons.1 member with rfl | later
      · rw [List.mem_cons, not_or]
        exact ⟨Ne.symm here, ih first List.mem_cons_self⟩
      · exact ih part (List.mem_cons_of_mem _ later)

theorem slash_not_mem_of_mem_segments {path s : String} (member : s ∈ segments path) :
    '/' ∉ s.toList := by
  obtain ⟨part, split, rfl⟩ := List.mem_map.1 member
  rw [String.toList_ofList]
  exact not_mem_of_mem_splitOn part split

/-- A name other than `..` is a component of its own, unless it leads nowhere else. -/
theorem ofSegment?_of_ne {s : String} (other : s ≠ "..") :
    Component.ofSegment? s = if s = "" ∨ s = "." then none else some (.name s) := by
  rw [Component.ofSegment?, if_neg other]

/-- Only `..` leads up, and no name is a start. -/
theorem ofSegment?_eq_some_iff {s : String} {c : Component} (unnamed : ∀ name, c ≠ .name name) :
    Component.ofSegment? s = some c ↔ s = ".." ∧ c = .parent := by
  by_cases up : s = ".."
  · subst up
    rw [show Component.ofSegment? ".." = some .parent from rfl, Option.some_inj, eq_comm]
    simp
  · rw [ofSegment?_of_ne up]
    constructor
    · intro found
      split at found
      · cases found
      · exact absurd (Option.some_inj.1 found).symm (unnamed s)
    · rintro ⟨same, _⟩
      exact absurd same up

/-- A path leads from its start along its segments. -/
theorem moves_eq (path : String) :
    moves path = (if isAbsolute path then [.root] else []) ++
      (segments path).filterMap Component.ofSegment? := by
  have along : ((segments path).filterMap Component.ofSegment?).filter (· ≠ .here) =
      (segments path).filterMap Component.ofSegment? := by
    rw [List.filter_eq_self]
    intro c member
    obtain ⟨s, _, found⟩ := List.mem_filterMap.1 member
    rw [decide_eq_true_eq]
    rintro rfl
    have := (ofSegment?_eq_some_iff (by simp)).1 found
    simp at this
  rw [moves, components, List.filter_append, along]
  congr 1
  by_cases absolute : isAbsolute path = true
  · simp [absolute]
  · by_cases here : (segments path).head? = some "."
    · simp [absolute, here]
    · simp [absolute, here]

theorem along_slash (front : String) :
    (segments (front ++ "/")).filterMap Component.ofSegment? =
      (segments front).filterMap Component.ofSegment? := by
  have ended := segments_append_slash front ""
  rw [String.append_empty] at ended
  rw [ended, List.filterMap_append]
  exact List.append_nil _

theorem isAbsolute_append {a : String} (nonempty : a ≠ "") (b : String) :
    isAbsolute (a ++ b) = isAbsolute a := by
  cases split : a.toList with
  | nil => exact absurd (String.toList_eq_nil_iff.1 split) nonempty
  | cons c cs => simp [isAbsolute, split]

/-- A relative path leads on from the end of another one. -/
theorem moves_join {root rest : String} (relative : isAbsolute rest = false) :
    moves (join root rest) = moves root ++ moves rest := by
  have behind : moves rest = (segments rest).filterMap Component.ofSegment? := by
    rw [moves_eq, relative]
    rfl
  rw [behind]
  by_cases nothing : root = ""
  · subst nothing
    rw [show join "" rest = rest by simp [join, relative], behind]
    rfl
  by_cases closed : root.toList.getLast? = some '/'
  · obtain ⟨front, rfl⟩ : ∃ front, root = front ++ "/" := by
      obtain ⟨front, split⟩ := List.getLast?_eq_some_iff.1 closed
      refine ⟨String.ofList front, ?_⟩
      rw [← String.toList_inj, split]
      simp
    have joined : join (front ++ "/") rest = front ++ "/" ++ rest := by
      simp [join, relative, nothing]
    rw [joined, moves_eq, moves_eq (front ++ "/"), isAbsolute_append nothing, segments_append_slash,
      List.filterMap_append, along_slash, List.append_assoc]
  · have opened : join root rest = root ++ "/" ++ rest := by
      simp [join, relative, nothing, closed]
    rw [opened, moves_eq, moves_eq root, String.append_assoc, isAbsolute_append nothing,
      ← String.append_assoc, segments_append_slash, List.filterMap_append, List.append_assoc]

/-- Where no segment leads up, a relative path leads along ordinary names. -/
theorem moves_eq_names {path : String} (relative : isAbsolute path = false)
    (down : ".." ∉ segments path) :
    moves path = (Tree.names path).map .name ∧ ∀ name ∈ Tree.names path, Ordinary name := by
  constructor
  · rw [moves_eq, relative, Tree.names, ← List.filterMap_eq_filter, List.map_filterMap]
    apply List.filterMap_congr
    intro s member
    have other : s ≠ ".." := fun up => down (up ▸ member)
    rw [ofSegment?_of_ne other]
    by_cases idle : s = "" ∨ s = "."
    · rw [if_pos idle]
      rcases idle with rfl | rfl <;> rfl
    · rw [if_neg idle, Option.guard, if_pos (by simpa [not_or] using idle)]
      rfl
  · intro name member
    obtain ⟨segment, leads⟩ := List.mem_filter.1 member
    have named : name ≠ "" ∧ name ≠ "." := by simpa using leads
    refine ⟨named.1, named.2, ?_, slash_not_mem_of_mem_segments segment⟩
    rintro rfl
    exact down segment

end Transclude.Files
