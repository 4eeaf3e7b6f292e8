namespace Transclude.Text

/-- The number of UTF-8 bytes that a run of characters takes. -/
def size : List Char → Nat
  | [] => 0
  | c :: cs => c.utf8Size + size cs

@[simp] theorem size_nil : size [] = 0 := rfl

@[simp] theorem size_cons (c : Char) (cs : List Char) : size (c :: cs) = c.utf8Size + size cs := rfl

@[simp] theorem size_append : ∀ a b : List Char, size (a ++ b) = size a + size b
  | [], b => by simp
  | c :: a, b => by simp [size_append a b, Nat.add_assoc]

/-- Splits a text at a byte offset. It has to be a place of the text, where one character ends and the next
one starts. -/
def splitAt? : List Char → Nat → Option (List Char × List Char)
  | cs, 0 => some ([], cs)
  | [], _ + 1 => none
  | c :: cs, offset + 1 =>
    if c.utf8Size ≤ offset + 1 then
      (splitAt? cs (offset + 1 - c.utf8Size)).map fun (before, after) => (c :: before, after)
    else none

@[simp] theorem splitAt?_append (a b : List Char) : splitAt? (a ++ b) (size a) = some (a, b) := by
  induction a with
  | nil => cases b <;> rfl
  | cons c a ih =>
    obtain ⟨n, total⟩ : ∃ n, size (c :: a) = n + 1 := ⟨size (c :: a) - 1, by
      have := c.utf8Size_pos
      simp only [size_cons]
      omega⟩
    have fits : c.utf8Size ≤ n + 1 := by simp only [size_cons] at total; omega
    have left : n + 1 - c.utf8Size = size a := by simp only [size_cons] at total; omega
    rw [total, List.cons_append, splitAt?, if_pos fits, left, ih]
    rfl

/-- The two parts at an offset are those that make up the text with the offset as the size of the
first. -/
theorem splitAt?_eq_some_iff {cs a b : List Char} {offset : Nat} :
    splitAt? cs offset = some (a, b) ↔ cs = a ++ b ∧ size a = offset := by
  constructor
  · fun_induction splitAt? cs offset generalizing a b with
    | case1 cs => rintro ⟨⟩; simp
    | case2 => simp
    | case3 c cs offset fits ih =>
      intro found
      obtain ⟨⟨before, after⟩, rest, same⟩ := Option.map_eq_some_iff.1 found
      simp only [Prod.mk.injEq] at same
      obtain ⟨rfl, rfl⟩ := same
      obtain ⟨rfl, sized⟩ := ih rest
      exact ⟨rfl, by simp only [size_cons]; omega⟩
    | case4 => simp
  · rintro ⟨rfl, rfl⟩
    exact splitAt?_append a b

/-- The part of a text between two byte offsets, both of which have to be places of it. -/
def slice? (cs : List Char) (start stop : Nat) : Option (List Char) :=
  if start ≤ stop then
    match splitAt? cs start with
    | none => none
    | some (_, after) => (splitAt? after (stop - start)).map fun (piece, _) => piece
  else none

theorem slice?_append (a b c : List Char) :
    slice? (a ++ b ++ c) (size a) (size a + size b) = some b := by
  rw [slice?, if_pos (Nat.le_add_right _ _), List.append_assoc, splitAt?_append]
  simp

/-- A piece of a text lies between two offsets if it does so for some parts in front of it and
behind it. -/
theorem slice?_eq_some_iff {cs piece : List Char} {start stop : Nat} :
    slice? cs start stop = some piece ↔
      ∃ a c, cs = a ++ piece ++ c ∧ size a = start ∧ size a + size piece = stop := by
  constructor
  · intro cut
    unfold slice? at cut
    split at cut
    · next ordered =>
      split at cut
      · cases cut
      · next a after first =>
        obtain ⟨⟨_, c⟩, second, rfl⟩ := Option.map_eq_some_iff.1 cut
        obtain ⟨rfl, sized⟩ := splitAt?_eq_some_iff.1 first
        obtain ⟨rfl, length⟩ := splitAt?_eq_some_iff.1 second
        refine ⟨a, c, (List.append_assoc ..).symm, sized, ?_⟩
        rw [sized, length]
        exact Nat.add_sub_cancel' ordered
    · cases cut
  · rintro ⟨a, c, rfl, rfl, rfl⟩
    exact slice?_append a piece c

end Transclude.Text
