import Transclude.Text.Blank

namespace Transclude.Text

/-- What holds of each of finitely many characters is evaluated on these, and not on all characters. -/
theorem forall_mem_of_all {p : Char → Prop} [DecidablePred p] {cs : List Char}
    (all : cs.all (fun c => decide (p c)) = true) : ∀ c ∈ cs, p c := by
  simpa using all

section
variable {p : Char → Bool} {run rest : List Char} (inside : ∀ c ∈ run, p c = true)
  (ends : ∀ c ∈ rest.head?, p c = false)
include inside ends

theorem takeWhile_run : (run ++ rest).takeWhile p = run := by
  rw [List.takeWhile_append_of_pos inside]
  cases rest with
  | nil => simp
  | cons c rest => rw [List.takeWhile_cons_of_neg (by simp [ends c rfl]), List.append_nil]

theorem dropWhile_run : (run ++ rest).dropWhile p = rest := by
  rw [List.dropWhile_append_of_pos inside]
  cases rest with
  | nil => rfl
  | cons c rest => exact List.dropWhile_cons_of_neg (by simp [ends c rfl])

end

section
variable {p : Char → Bool} {more : List Char} (ends : ∀ c ∈ more.head?, p c = false) (cs : List Char)
include ends

/-- A run does not reach into a text that starts with a character of another class. -/
theorem takeWhile_append_ends : (cs ++ more).takeWhile p = cs.takeWhile p := by
  induction cs with
  | nil => exact takeWhile_run (by simp) ends
  | cons c cs ih => simp only [List.cons_append, List.takeWhile_cons, ih]

theorem dropWhile_append_ends : (cs ++ more).dropWhile p = cs.dropWhile p ++ more := by
  induction cs with
  | nil => exact dropWhile_run (by simp) ends
  | cons c cs ih =>
    simp only [List.cons_append, List.dropWhile_cons, ih]
    split <;> rfl

end

theorem trimLeft_cons {c : Char} (solid : isBlank c = false) (cs : List Char) :
    trimLeft (c :: cs) = c :: cs :=
  List.dropWhile_cons_of_neg (by simp [solid])

theorem trimLeft_append {front : List Char} (blank : ∀ c ∈ front, isBlank c = true)
    (cs : List Char) : trimLeft (front ++ cs) = trimLeft cs :=
  List.dropWhile_append_of_pos blank

theorem trimLeft_of_solid {cs : List Char} (solid : ∀ c ∈ cs.head?, isBlank c = false) :
    trimLeft cs = cs := by
  have none : ∀ c ∈ ([] : List Char), isBlank c = true := fun _ => nofun
  exact dropWhile_run none solid

theorem trimRight_append {back : List Char} (blank : ∀ c ∈ back, isBlank c = true)
    (cs : List Char) : trimRight (cs ++ back) = trimRight cs := by
  rw [trimRight, List.reverse_append, List.dropWhile_append_of_pos (by simpa using blank)]
  rfl

/-- What stands in front of a character that is no blank is kept, whatever follows. -/
theorem trimRight_append_cons {c : Char} (solid : isBlank c = false) (front cs : List Char) :
    trimRight (front ++ c :: cs) = front ++ c :: trimRight cs := by
  have ends : ∀ d ∈ (c :: front.reverse).head?, isBlank d = false := by simpa using solid
  rw [trimRight, List.reverse_append, List.reverse_cons, List.append_assoc, List.singleton_append,
    dropWhile_append_ends ends, List.reverse_append, List.reverse_cons, List.reverse_reverse,
    List.append_assoc]
  rfl

/-- A text that neither starts nor ends with a blank. -/
def Trimmed (cs : List Char) : Prop :=
  (∀ c ∈ cs.head?, isBlank c = false) ∧ ∀ c ∈ cs.getLast?, isBlank c = false

instance (cs : List Char) : Decidable (Trimmed cs) :=
  have : Decidable (∀ c ∈ cs.head?, isBlank c = false) := Option.decidableForallMem _
  have : Decidable (∀ c ∈ cs.getLast?, isBlank c = false) := Option.decidableForallMem _
  inferInstanceAs (Decidable (_ ∧ _))

section
variable {front cs back : List Char} (trimmed : Trimmed cs) (before : ∀ c ∈ front, isBlank c = true)
  (behind : ∀ c ∈ back, isBlank c = true)
include trimmed before behind

/-- Blanks around a text are left out behind it, and with them all that there is if the text is empty. -/
theorem trimRight_padded : trimRight (front ++ cs ++ back) = if cs = [] then [] else front ++ cs := by
  rw [trimRight_append behind]
  cases ends : cs.getLast? with
  | none =>
    rw [if_pos (List.getLast?_eq_none_iff.1 ends), List.getLast?_eq_none_iff.1 ends, List.append_nil]
    exact trimRight_append before []
  | some last =>
    obtain ⟨init, rfl⟩ := List.getLast?_eq_some_iff.1 ends
    have solid : isBlank last = false := trimmed.2 last ends
    rw [if_neg (by simp), ← List.append_assoc, trimRight_append_cons solid]
    rfl

theorem trim_padded : trim (front ++ cs ++ back) = cs := by
  rw [List.append_assoc, trim, trimLeft_append before]
  by_cases empty : cs = []
  · have nothing : trimLeft back = [] := by
      have blank := trimLeft_append behind []
      rwa [List.append_nil] at blank
    rw [empty, List.nil_append, nothing]
    rfl
  · obtain ⟨c, rest, rfl⟩ := List.exists_cons_of_ne_nil empty
    have kept := trimRight_padded trimmed (fun _ => nofun : ∀ c ∈ [], isBlank c = true) behind
    rw [List.nil_append, if_neg empty] at kept
    rw [List.cons_append, trimLeft_cons (trimmed.1 c rfl), ← List.cons_append, kept]

/-- It is all the same whether the blanks behind a text are left out before or not. -/
theorem trim_trimRight_padded : trim (trimRight (front ++ cs ++ back)) = cs := by
  rw [trimRight_padded trimmed before behind]
  by_cases empty : cs = []
  · rw [if_pos empty, empty, trim_nil]
  · rw [if_neg empty, ← List.append_nil (front ++ cs)]
    exact trim_padded trimmed before (fun _ => nofun)

end

/-- A text that is empty or starts with a blank. -/
def StartsBlank (cs : List Char) : Prop :=
  ∀ c ∈ cs.head?, isBlank c = true

theorem startsBlank_nil : StartsBlank [] := nofun

theorem startsBlank_cons {c : Char} {cs : List Char} :
    StartsBlank (c :: cs) ↔ isBlank c = true := by
  simp [StartsBlank]

end Transclude.Text
