import Transclude.Text.Search

namespace Transclude.Text

theorem after?_eq_none_iff {piece cs : List Char} : after? piece cs = none ↔ ¬ piece <+: cs := by
  constructor
  · rintro none ⟨rest, same⟩
    rw [after?_eq_some_iff.2 same.symm] at none
    cases none
  · intro apart
    cases found : after? piece cs with
    | none => rfl
    | some rest => exact absurd ⟨rest, (after?_eq_some_iff.1 found).symm⟩ apart

theorem cut?_eq_none_iff {piece cs : List Char} : cut? piece cs = none ↔ ¬ piece <:+: cs := by
  induction cs with
  | nil => simp [cut?, after?_eq_none_iff]
  | cons c cs ih =>
    rw [List.infix_cons_iff, not_or, ← ih, ← after?_eq_none_iff]
    cases here : after? piece (c :: cs) with
    | none => simp [cut?, here]
    | some rest => simp [cut?, here]

/-- No occurrence starts before the one that a search finds. -/
theorem length_le_of_cut? {piece cs before rest : List Char}
    (found : cut? piece cs = some (before, rest)) {a b : List Char} (whole : cs = a ++ piece ++ b) :
    before.length ≤ a.length := by
  induction cs generalizing before a with
  | nil =>
    have := congrArg List.length (eq_of_cut? found)
    simp only [List.length_nil, List.length_append] at this
    omega
  | cons c cs ih =>
    rw [cut?] at found
    cases here : after? piece (c :: cs) with
    | some later =>
      simp only [here, Option.some.injEq, Prod.mk.injEq] at found
      simp [← found.1]
    | none =>
      simp only [here, Option.map_eq_some_iff] at found
      obtain ⟨⟨earlier, _⟩, there, same⟩ := found
      simp only [Prod.mk.injEq] at same
      obtain ⟨rfl, rfl⟩ := same
      cases a with
      | nil => exact absurd ⟨b, by simpa using whole.symm⟩ (after?_eq_none_iff.1 here)
      | cons d a =>
        have tail : cs = a ++ piece ++ b := by simpa using (List.cons.inj whole).2
        exact Nat.succ_le_succ (ih there tail)

/-- A search cuts a text at the leftmost occurrence of the piece. -/
theorem cut?_eq_some_iff {piece cs before rest : List Char} :
    cut? piece cs = some (before, rest) ↔
      cs = before ++ piece ++ rest ∧ ∀ a b, cs = a ++ piece ++ b → before.length ≤ a.length := by
  constructor
  · intro found
    exact ⟨eq_of_cut? found, fun _ _ whole => length_le_of_cut? found whole⟩
  · rintro ⟨whole, leftmost⟩
    cases found : cut? piece cs with
    | none => exact absurd ⟨before, rest, whole.symm⟩ (cut?_eq_none_iff.1 found)
    | some parts =>
      obtain ⟨a, b⟩ := parts
      have other := eq_of_cut? found
      have sized : a.length = before.length :=
        Nat.le_antisymm (length_le_of_cut? found whole) (leftmost a b other)
      have both : a ++ (piece ++ b) = before ++ (piece ++ rest) := by
        rw [← List.append_assoc, ← other, whole, List.append_assoc]
      obtain ⟨rfl, behind⟩ := List.append_inj both sized
      rw [List.append_cancel_left behind]

theorem cut?_append_self (piece rest : List Char) : cut? piece (piece ++ rest) = some ([], rest) :=
  cut?_eq_some_iff.2 ⟨by simp, by simp⟩

theorem splitOnce?_eq_none_iff {separator : Char} {cs : List Char} :
    splitOnce? separator cs = none ↔ separator ∉ cs := by
  induction cs with
  | nil => simp [splitOnce?]
  | cons c cs ih =>
    by_cases here : c = separator
    · simp [splitOnce?, here]
    · simp [splitOnce?, here, ih, Ne.symm here]

theorem split_unique {separator : Char} {a b c d : List Char}
    (same : a ++ separator :: b = c ++ separator :: d) (one : separator ∉ a) (two : separator ∉ c) :
    a = c ∧ b = d := by
  have left : splitOnce? separator (c ++ separator :: d) = some (a, b) :=
    splitOnce?_eq_some_iff.2 ⟨same.symm, one⟩
  rw [splitOnce?_eq_some_iff.2 ⟨rfl, two⟩] at left
  cases left
  exact ⟨rfl, rfl⟩

theorem replaceAll_of_absent {piece cs : List Char} (text : List Char) (apart : ¬ piece <:+: cs) :
    replaceAll piece text cs = cs := by
  rw [replaceAll, cut?_eq_none_iff.2 apart]

/-- Replacement goes on behind the first occurrence. -/
theorem replaceAll_of_cut? {piece cs before rest : List Char} (text : List Char) (nonempty : piece ≠ [])
    (found : cut? piece cs = some (before, rest)) :
    replaceAll piece text cs = before ++ text ++ replaceAll piece text rest := by
  have shorter : rest.length < cs.length := by
    have := List.length_pos_iff.2 nonempty
    rw [eq_of_cut? found]
    simp only [List.length_append]
    omega
  rw [replaceAll, found]
  exact if_pos shorter

/-- A text with every occurrence of a piece replaced: the leftmost one, and then those of what is left
behind it. -/
inductive Replaced (piece text : List Char) : List Char → List Char → Prop where
  | absent {cs : List Char} (apart : ¬ piece <:+: cs) : Replaced piece text cs cs
  | found {before rest rest' : List Char}
      (leftmost : ∀ a b, before ++ piece ++ rest = a ++ piece ++ b → before.length ≤ a.length)
      (later : Replaced piece text rest rest') :
      Replaced piece text (before ++ piece ++ rest) (before ++ text ++ rest')

theorem replaceAll_eq_iff {piece text cs cs' : List Char} (nonempty : piece ≠ []) :
    replaceAll piece text cs = cs' ↔ Replaced piece text cs cs' := by
  constructor
  · rintro rfl
    induction sized : cs.length using Nat.strongRecOn generalizing cs with
    | _ n ih =>
      cases found : cut? piece cs with
      | none =>
        have apart := cut?_eq_none_iff.1 found
        rw [replaceAll_of_absent text apart]
        exact .absent apart
      | some parts =>
        obtain ⟨before, rest⟩ := parts
        rw [replaceAll_of_cut? text nonempty found]
        obtain ⟨rfl, leftmost⟩ := cut?_eq_some_iff.1 found
        refine .found leftmost (ih rest.length ?_ rfl)
        have := List.length_pos_iff.2 nonempty
        rw [← sized]
        simp only [List.length_append]
        omega
  · intro replaced
    induction replaced with
    | absent apart => exact replaceAll_of_absent text apart
    | found leftmost _ ih =>
      rw [replaceAll_of_cut? text nonempty (cut?_eq_some_iff.2 ⟨rfl, leftmost⟩), ih]

theorem replaceAll_append_self {piece : List Char} (text rest : List Char) (nonempty : piece ≠ []) :
    replaceAll piece text (piece ++ rest) = text ++ replaceAll piece text rest := by
  simpa using replaceAll_of_cut? text nonempty (cut?_append_self piece rest)

end Transclude.Text
