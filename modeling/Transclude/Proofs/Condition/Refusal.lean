import Transclude.Condition.Evaluate

namespace Transclude.Condition

/-- Two readings that fail for one cause, or leave the same behind them and differ at most in their
values. -/
inductive SameCourse {ε α : Type} : Except ε (Operand × α) → Except ε (Operand × α) → Prop where
  | refused (error : ε) : SameCourse (.error error) (.error error)
  | read (v w : Operand) (rest : α) : SameCourse (.ok (v, rest)) (.ok (w, rest))

section
variable {join : Join} {read read' : Reader} (same : ∀ ts, SameCourse (read ts) (read' ts))
include same

theorem sameCourse_continueChain (v w : Operand) (ts : List Token) :
    SameCourse (continueChain join read v ts) (continueChain join read' w ts) := by
  have onward : ∀ n v w, ∀ ts : List Token, ts.length = n →
      SameCourse (continueChain join read v ts) (continueChain join read' w ts) := by
    intro n
    induction n using Nat.strongRecOn with
    | _ n ih =>
      intro v w ts sized
      cases ts with
      | nil =>
        rw [continueChain, continueChain]
        exact .read v w _
      | cons t ts =>
        rw [continueChain, continueChain]
        cases join t with
        | none => exact .read v w _
        | some f =>
          have right := same ts
          generalize read ts = one, read' ts = two at right
          cases right with
          | refused error => exact .refused error
          | read x y rest =>
            obtain ⟨later, shorter⟩ := rest
            have less : later.length < n := by
              rw [← sized, List.length_cons]
              omega
            have further := ih _ less (f v x) (f w y) later rfl
            simp only
            generalize continueChain join read (f v x) later = one,
              continueChain join read' (f w y) later = two at further
            cases further with
            | refused error => exact .refused error
            | read x y rest => exact .read x y _
  exact onward _ v w ts rfl

theorem sameCourse_chain (ts : List Token) :
    SameCourse (chain join read ts) (chain join read' ts) := by
  unfold chain
  have first := same ts
  generalize read ts = one, read' ts = two at first
  cases first with
  | refused error => exact .refused error
  | read v w rest =>
    obtain ⟨later, shorter⟩ := rest
    have further : SameCourse (continueChain join read v later) (continueChain join read' w later) :=
      sameCourse_continueChain same v w later
    simp only
    generalize continueChain join read v later = one, continueChain join read' w later = two at further
    cases further with
    | refused error => exact .refused error
    | read x y rest => exact .read x y _

theorem sameCourse_negated (ts : List Token) : SameCourse (negated read ts) (negated read' ts) := by
  unfold negated
  have behind := same (countNot ts).2
  generalize read (countNot ts).2 = one, read' (countNot ts).2 = two at behind
  cases behind with
  | refused error => exact .refused error
  | read v w rest => exact .read _ _ _

end

theorem sameCourse_endLookup (v w : Operand) (ts : List Token) :
    SameCourse (endLookup v ts) (endLookup w ts) := by
  unfold endLookup
  split
  · exact .refused _
  · exact .refused _
  · exact .read v w _

theorem sameCourse_lookup (o o' : Options) (ts : List Token) :
    SameCourse (lookup o ts) (lookup o' ts) := by
  unfold lookup
  split
  · exact sameCourse_endLookup _ _ _
  · exact .refused _
  · exact sameCourse_endLookup _ _ _
  · exact .refused _
  · exact .refused _
  · exact .read _ _ _

section
variable (o o' : Options) {group group' : Reader}
  (same : ∀ ts, SameCourse (group ts) (group' ts))
include same

theorem sameCourse_operand (ts : List Token) :
    SameCourse (operand o group ts) (operand o' group' ts) := by
  unfold operand
  split
  · exact .refused _
  · exact .read _ _ _
  · exact .read _ _ _
  · next later =>
    have inner := same later
    generalize group later = one, group' later = two at inner
    cases inner with
    | refused error => exact .refused error
    | read v w rest =>
      obtain ⟨rest, shorter⟩ := rest
      cases rest with
      | nil => exact .refused _
      | cons t last =>
        cases t with
        | rightParen => exact .read _ _ _
        | _ => exact .refused _
  · next name later =>
    by_cases yes : name = "true"
    · rw [if_pos yes, if_pos yes]
      exact .read _ _ _
    by_cases no : name = "false"
    · rw [if_neg yes, if_pos no, if_neg yes, if_pos no]
      exact .read _ _ _
    by_cases nothing : name = "null" ∨ name = "undefined"
    · simp only [yes, no, nothing, if_true, if_false]
      exact .read _ _ _
    by_cases config : name = "config"
    · simp only [yes, no, nothing, if_false, if_pos config]
      have looked := sameCourse_lookup o o' later
      split
      · next error found =>
        rw [found] at looked
        split
        · next other found' =>
          rw [found'] at looked
          cases looked
          exact .refused _
        · next w last found' =>
          rw [found'] at looked
          cases looked
      · next v last found =>
        rw [found] at looked
        split
        · next error found' =>
          rw [found'] at looked
          cases looked
        · next w last' found' =>
          rw [found'] at looked
          cases looked
          exact .read _ _ _
    · simp only [yes, no, nothing, config, if_false]
      exact .refused _
  · exact .refused _

theorem sameCourse_disjunction (ts : List Token) :
    SameCourse (disjunction o group ts) (disjunction o' group' ts) :=
  sameCourse_chain (sameCourse_chain (sameCourse_chain (sameCourse_negated
    (sameCourse_operand o o' same)))) ts

end

theorem sameCourse_expression (o o' : Options) (depth : Nat) (ts : List Token) :
    SameCourse (expression o depth ts) (expression o' depth ts) := by
  induction depth generalizing ts with
  | zero => exact sameCourse_disjunction o o' (fun _ => .refused _) ts
  | succ depth ih => exact sameCourse_disjunction o o' ih ts

/-- Tokens make up no condition under all options or under none. -/
theorem readAll_eq_error_iff (o o' : Options) {ts : List Token} {cause : ConditionError} :
    readAll o ts = .error cause ↔ readAll o' ts = .error cause := by
  unfold readAll
  have whole := sameCourse_expression o o' maxDepth ts
  generalize expression o maxDepth ts = one, expression o' maxDepth ts = two at whole
  cases whole with
  | refused error => rfl
  | read v w rest =>
    obtain ⟨last, shorter⟩ := rest
    cases last with
    | nil => simp
    | cons t last => rfl

/-- What is wrong with a condition is wrong with it under all options, also behind a sign whose left side
settles the value. -/
theorem evaluate_eq_error_iff (o o' : Options) {condition : String} {error : ResolveError} :
    evaluate condition o = .error error ↔ evaluate condition o' = .error error := by
  unfold evaluate
  cases tokens condition.toList with
  | error cause => rfl
  | ok ts =>
    simp only
    cases run : readAll o ts with
    | error cause => rw [(readAll_eq_error_iff o o').1 run]
    | ok v =>
      cases run' : readAll o' ts with
      | error cause =>
        rw [(readAll_eq_error_iff o' o).1 run'] at run
        cases run
      | ok w => simp

end Transclude.Condition
