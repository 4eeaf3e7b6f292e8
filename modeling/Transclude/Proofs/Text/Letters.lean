import Transclude.Text.Letters

namespace Transclude.Text

theorem isNumeric_of_isDecimalDigit {c : Char} (digit : isDecimalDigit c = true) :
    isNumeric c = true :=
  Table.holds_of_covered (by decide +kernel) digit

/-- Characters that stand in a word without being a letter or a number. -/
def joins (c : Char) : Bool :=
  isMark c || isConnector c || isJoiner c

/-- The characters that are in one class and not in the other, where `_` counts as alphanumeric. -/
inductive Disputed (c : Char) : Prop where
  /-- A letter or number that came with version 17.0. -/
  | latest (new : isLatest c = true) (alphanumeric : isAlphanumeric c = true)
  /-- A mark, a connector other than `_`, or a joiner. -/
  | joining (old : isLatest c = false) (joining : joins c = true)
      (other : isAlphanumeric c = false ∧ c ≠ '_')
  /-- A number that is no decimal digit, such as `²`. -/
  | number (old : isLatest c = false) (number : isNumeric c = true)
      (other : isAlphabetic c = false ∧ isDecimalDigit c = false ∧ joins c = false)

variable {c : Char}

theorem isWord_eq : isWord c = ((isAlphabetic c || isDecimalDigit c || joins c) && !isLatest c) := by
  rw [isWord, joins]
  cases isAlphabetic c <;> cases isMark c <;> cases isDecimalDigit c <;> rfl

/-- The classes differ on the disputed characters, and on no others. -/
theorem disputed_iff : Disputed c ↔ isWord c ≠ (isAlphanumeric c || c == '_') := by
  rw [isWord_eq]
  constructor
  · intro disputed
    cases disputed with
    | latest new alphanumeric => simp [new, alphanumeric]
    | joining old joining other => simp [old, joining, other]
    | number old number other => simp [isAlphanumeric, number, other]
  · intro differ
    have under : c = '_' → isLatest c = false ∧ joins c = true := by
      rintro rfl
      exact ⟨by decide, by decide⟩
    cases new : isLatest c with
    | true =>
      refine .latest new ?_
      have plain : c ≠ '_' := fun same => by simp [(under same).1] at new
      simpa [new, plain] using differ
    | false =>
      cases joining : joins c with
      | true => exact .joining new joining (by simpa [new, joining] using differ)
      | false =>
        -- Neither a letter nor a decimal digit is in one class only.
        have plain : c ≠ '_' := fun same => by simp [(under same).2] at joining
        have unlettered : isAlphabetic c = false := by
          cases letter : isAlphabetic c with
          | false => rfl
          | true => simp [new, letter, isAlphanumeric] at differ
        have undigited : isDecimalDigit c = false := by
          cases digit : isDecimalDigit c with
          | false => rfl
          | true => simp [new, digit, isAlphanumeric, isNumeric_of_isDecimalDigit digit] at differ
        refine .number new ?_ ⟨unlettered, undigited, joining⟩
        simpa [new, joining, plain, unlettered, undigited, isAlphanumeric] using differ

end Transclude.Text
