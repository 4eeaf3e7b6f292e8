import Transclude.Identifier
import Transclude.Proofs.Text.Occurrence
import Transclude.Proofs.Text.Run

namespace Transclude.Identifier

open Transclude.Text

variable {identifier loader extension : String} {c : Char}

theorem withLoader_ne_empty (loader : String) (nonempty : identifier ≠ "") :
    withLoader identifier loader ≠ "" := by
  unfold withLoader
  split
  · exact nonempty
  · simp

theorem withExtension_ne_empty (extension : String) (nonempty : identifier ≠ "") :
    withExtension identifier extension ≠ "" := by
  unfold withExtension
  split
  · exact nonempty
  · simp

theorem withLoader_of_hasLoader (held : hasLoader identifier = true) (loader : String) :
    withLoader identifier loader = identifier := by
  simp [withLoader, held]

theorem withExtension_of_hasExtension (held : hasExtension identifier = true) (extension : String) :
    withExtension identifier extension = identifier := by
  simp [withExtension, held]

theorem mem_withLoader (member : c ∈ (withLoader identifier loader).toList) :
    c ∈ loader.toList ∨ c = '!' ∨ c ∈ identifier.toList := by
  unfold withLoader at member
  split at member
  · exact .inr (.inr member)
  · simpa [or_assoc] using member

theorem mem_withExtension (member : c ∈ (withExtension identifier extension).toList) :
    c ∈ identifier.toList ∨ c = '.' ∨ c ∈ extension.toList := by
  unfold withExtension at member
  split at member
  · exact .inl member
  · simpa [or_assoc] using member

theorem hasLoader_iff :
    hasLoader identifier = true ↔ ∃ loader path, identifier.toList = loader ++ '!' :: path ∧
      loader ≠ [] ∧ ∀ c ∈ loader, isWord c = true := by
  unfold hasLoader
  constructor
  · intro held
    split at held
    · next loader path split =>
      simp only [Bool.and_eq_true, Bool.not_eq_true', List.isEmpty_eq_false_iff,
        List.all_eq_true] at held
      exact ⟨loader, path, (splitOnce?_eq_some_iff.1 split).1, held⟩
    · cases held
  · rintro ⟨loader, path, whole, nonempty, word⟩
    have absent : '!' ∉ loader := fun member => absurd (word '!' member) (by decide)
    rw [splitOnce?_eq_some_iff.2 ⟨whole, absent⟩]
    simpa [nonempty] using word

theorem hasLoader_append (held : hasLoader identifier = true) (more : String) :
    hasLoader (identifier ++ more) = true := by
  obtain ⟨loader, path, whole, word⟩ := hasLoader_iff.1 held
  exact hasLoader_iff.2 ⟨loader, path ++ more.toList, by simp [whole], word⟩

theorem hasLoader_of_isWord (nonempty : loader ≠ "") (word : ∀ c ∈ loader.toList, isWord c = true)
    (path : String) : hasLoader (loader ++ "!" ++ path) = true :=
  hasLoader_iff.2 ⟨loader.toList, path.toList, by simp, by simpa using nonempty, word⟩

/-- An identifier to which a loader is not added: it has one, or there is none to add. -/
def Prefixed (loader identifier : String) : Prop :=
  hasLoader identifier = true ∨ loader = ""

theorem withLoader_of_prefixed (prefixed : Prefixed loader identifier) :
    withLoader identifier loader = identifier := by
  rcases prefixed with held | rfl
  · exact withLoader_of_hasLoader held loader
  · simp [withLoader]

theorem prefixed_withLoader (word : ∀ c ∈ loader.toList, isWord c = true) (identifier : String) :
    Prefixed loader (withLoader identifier loader) := by
  unfold withLoader
  split
  · next done =>
    simpa [Prefixed] using done
  · next missing =>
    have nonempty : loader ≠ "" := fun empty => missing (by simp [empty])
    exact .inl (hasLoader_of_isWord nonempty word identifier)

theorem Prefixed.append (prefixed : Prefixed loader identifier) (more : String) :
    Prefixed loader (identifier ++ more) :=
  prefixed.imp_left fun held => hasLoader_append held more

section
variable {cs : List Char}

theorem lastSegment_append {more : List Char} (plain : ∀ c ∈ more, c ≠ '/' ∧ c ≠ '!') :
    lastSegment (cs ++ more) = lastSegment cs ++ more := by
  have inside : ∀ c ∈ more.reverse, (c != '/' && c != '!') = true := by
    intro c member
    simpa using plain c (List.mem_reverse.1 member)
  rw [lastSegment, List.reverse_append, List.takeWhile_append_of_pos inside, List.reverse_append,
    List.reverse_reverse, lastSegment]

/-- What stands in front of a `/` or `!` does not belong to the last segment. -/
theorem lastSegment_behind {c : Char} (mark : c = '/' ∨ c = '!') (front : List Char) :
    lastSegment (front ++ c :: cs) = lastSegment cs := by
  have ends : ∀ d ∈ (c :: front.reverse).head?, (d != '/' && d != '!') = false := by
    rcases mark with rfl | rfl <;> simp
  rw [lastSegment, List.reverse_append, List.reverse_cons, List.append_assoc, List.singleton_append,
    takeWhile_append_ends ends, lastSegment]

end

theorem lastSegment_withLoader (identifier loader : String) :
    lastSegment (withLoader identifier loader).toList = lastSegment identifier.toList := by
  unfold withLoader
  split
  · rfl
  · rw [String.toList_append, String.toList_append, List.append_assoc]
    exact lastSegment_behind (.inr rfl) loader.toList

/-- An identifier to which an extension is not added: it has one, or there is none to add. -/
def Extended (extension identifier : String) : Prop :=
  hasExtension identifier = true ∨ extension = ""

theorem withExtension_of_extended (extended : Extended extension identifier) :
    withExtension identifier extension = identifier := by
  rcases extended with held | rfl
  · exact withExtension_of_hasExtension held extension
  · simp [withExtension]

theorem extended_withExtension (plain : ∀ c ∈ extension.toList, c ≠ '/' ∧ c ≠ '!')
    (segment : lastSegment identifier.toList ≠ []) :
    Extended extension (withExtension identifier extension) := by
  unfold withExtension
  split
  · next done => simpa [Extended, or_comm] using done
  · -- The dot stands behind a segment that is not empty.
    have dotted : ∀ c ∈ '.' :: extension.toList, c ≠ '/' ∧ c ≠ '!' := by
      intro c member
      rcases List.mem_cons.1 member with rfl | later
      · decide
      · exact plain c later
    have whole : (identifier ++ "." ++ extension).toList =
        identifier.toList ++ '.' :: extension.toList := by simp
    left
    rw [hasExtension, whole, lastSegment_append dotted]
    obtain ⟨c, rest, split⟩ := List.exists_cons_of_ne_nil segment
    simp [split]

end Transclude.Identifier
