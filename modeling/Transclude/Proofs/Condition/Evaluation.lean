import Mathlib
import Transclude.Proofs.Condition.Readers

namespace Transclude.Condition

/-- The signs that stand between two conditions. -/
def binarySigns : List Token :=
  [.or, .and, .equal, .unequal]

/-- The tokens of parts with signs in front of all but the first. -/
def joined (first : List Token) (others : List (Token × List Token)) : List Token :=
  first ++ others.flatMap fun other => other.1 :: other.2

section
variable {ls rs : List Token} {l r : Expr} {t : Token}

private theorem Derives.join_equality (equality : t = .equal ∨ t = .unequal)
    (left : Derives .equality ls l) (right : Derives .negation rs r) :
    ∃ e, Derives .equality (ls ++ t :: rs) e ∧ e.nesting = max l.nesting r.nesting := by
  rcases equality with rfl | rfl
  · exact ⟨.equal l r, .equal left right, rfl⟩
  · exact ⟨.unequal l r, .unequal left right, rfl⟩

private theorem Derives.join_conjunction (sign : t = .and ∨ t = .equal ∨ t = .unequal)
    (left : Derives .conjunction ls l) (right : Derives .negation rs r) :
    ∃ e, Derives .conjunction (ls ++ t :: rs) e ∧ e.nesting = max l.nesting r.nesting := by
  rcases sign with rfl | equality
  · exact ⟨.and l r, .and left (.equality right), rfl⟩
  · -- A sign that binds stronger takes the last side of the chain for its left side.
    cases left with
    | conjunction only =>
      obtain ⟨e, derived, deep⟩ := only.join_equality equality right
      exact ⟨e, .conjunction derived, deep⟩
    | @and ls ms l m left last =>
      obtain ⟨e, derived, deep⟩ := last.join_equality equality right
      refine ⟨.and l e, ?_, ?_⟩
      · rw [List.append_assoc, List.cons_append]
        exact .and left derived
      · rw [Expr.nesting, Expr.nesting, deep, Nat.max_assoc]

/-- A chain may be made longer by any sign and a part that binds stronger than all signs, and is then as
deep as the deeper of both. -/
theorem Derives.join (sign : t ∈ binarySigns) (left : Derives .disjunction ls l)
    (right : Derives .negation rs r) :
    ∃ e, Derives .disjunction (ls ++ t :: rs) e ∧ e.nesting = max l.nesting r.nesting := by
  have cases : t = .or ∨ t = .and ∨ t = .equal ∨ t = .unequal := by simpa [binarySigns] using sign
  rcases cases with rfl | stronger
  · exact ⟨.or l r, .or left (.conjunction (.equality right)), rfl⟩
  · cases left with
    | disjunction only =>
      obtain ⟨e, derived, deep⟩ := only.join_conjunction stronger right
      exact ⟨e, .disjunction derived, deep⟩
    | @or ls ms l m left last =>
      obtain ⟨e, derived, deep⟩ := last.join_conjunction stronger right
      refine ⟨.or l e, ?_, ?_⟩
      · rw [List.append_assoc, List.cons_append]
        exact .or left derived
      · rw [Expr.nesting, Expr.nesting, deep, Nat.max_assoc]

end

theorem evaluate_eq_ok_iff_readAll {condition : String} {o : Options} {b : Bool} :
    evaluate condition o = .ok b ↔
      ∃ ts v, tokens condition.toList = .ok ts ∧ readAll o ts = .ok v ∧ v.truthy = b := by
  unfold evaluate
  constructor
  · intro run
    split at run
    · cases run
    · next ts tokenizes =>
      split at run
      · cases run
      · next v read =>
        cases run
        exact ⟨ts, v, tokenizes, read, rfl⟩
  · rintro ⟨ts, v, tokenizes, read, rfl⟩
    simp only [tokenizes, read]

theorem evaluate_error {condition : String} {o : Options} {error : ResolveError}
    (run : evaluate condition o = .error error) : ∃ cause, error = .condition condition cause := by
  unfold evaluate at run
  split at run
  · next cause _ =>
    cases run
    exact ⟨cause, rfl⟩
  · split at run
    · next cause _ =>
      cases run
      exact ⟨cause, rfl⟩
    · cases run

end Transclude.Condition
