import Transclude.Proofs.Page.Course

/-!
# The search for tags by byte offsets

A search starts at an offset that has to be a place of the text, and answers with offsets. `OpenedAt`
says of an offset, without the search, that a tag is opened there; `FirstFrom` says which of all the tags
that are opened from a place on is the first one. The search finds that tag, and none only where there is
none (`findTag_firstFrom`).
-/

namespace Transclude

open Transclude.Text

/-- A tag with a name is opened at a byte offset of a text: the text from there on starts with `<name `. -/
def OpenedAt (text : List Char) (name : String) (position : Nat) : Prop :=
  slice? text position (position + size (opening name)) = some (opening name)

/-- The first of the tags that are opened in a text from a byte offset on. None of the configured names
opens one further left, and none that is listed in front of the tag's own name opens one at the same
place; an empty name names no tag. -/
structure FirstFrom (names : List String) (text : List Char) (start : Nat) (found : TagMatch) :
    Prop where
  behind : start ≤ found.position
  opened : slice? text found.position found.tagStart = some (opening found.name)
  tagStart : found.tagStart = found.position + size (opening found.name)
  leftmost : ∀ name ∈ names, name ≠ "" → ∀ position, start ≤ position →
    OpenedAt text name position → found.position ≤ position
  listed : ∃ earlier later, names = earlier ++ found.name :: later ∧ found.name ≠ "" ∧
    ∀ other ∈ earlier, other ≠ "" → ¬ OpenedAt text other found.position

section
variable {done rest : List Char} {name : String}

theorem openedAt_iff {text : List Char} {position : Nat} :
    OpenedAt text name position ↔ ∃ a b, text = a ++ opening name ++ b ∧ size a = position := by
  rw [OpenedAt, slice?_eq_some_iff]
  constructor
  · rintro ⟨a, b, whole, sized, -⟩
    exact ⟨a, b, whole, sized⟩
  · rintro ⟨a, b, whole, rfl⟩
    exact ⟨a, b, whole, rfl, rfl⟩

/-- The tags that are opened from a place of a text on are those of what follows it. -/
theorem openedAt_behind_iff {position : Nat} (behind : size done ≤ position) :
    OpenedAt (done ++ rest) name position ↔
      ∃ a b, rest = a ++ opening name ++ b ∧ position = size done + size a := by
  rw [openedAt_iff]
  constructor
  · rintro ⟨front, b, whole, rfl⟩
    rw [List.append_assoc] at whole
    obtain ⟨a, rfl, unread⟩ := exists_between_of_size_le whole behind
    exact ⟨a, b, by rw [unread, List.append_assoc], size_append done a⟩
  · rintro ⟨a, b, rfl, rfl⟩
    exact ⟨done ++ a, b, by simp, size_append done a⟩

/-- A tag is opened at a place if what follows the place starts with its opening. -/
theorem openedAt_place_iff {before tail : List Char} (split : rest = before ++ tail) :
    OpenedAt (done ++ rest) name (size done + size before) ↔ opening name <+: tail := by
  rw [openedAt_iff]
  constructor
  · rintro ⟨a, b, whole, sized⟩
    have one : splitAt? (done ++ rest) (size done + size before) = some (done ++ before, tail) :=
      splitAt?_eq_some_iff.2 ⟨by rw [split, List.append_assoc], size_append done before⟩
    have two : splitAt? (done ++ rest) (size done + size before) = some (a, opening name ++ b) :=
      splitAt?_eq_some_iff.2 ⟨by rw [whole, List.append_assoc], sized⟩
    rw [one] at two
    exact ⟨b, (Prod.mk.inj (Option.some.inj two)).2.symm⟩
  · rintro ⟨b, rfl⟩
    exact ⟨done ++ before, b, by simp [split], size_append done before⟩

/-- Of two places of one text the one in front has fewer characters and fewer bytes in front of it. -/
theorem size_le_iff_of_split {text a b c d x y : List Char} (one : text = a ++ x ++ c)
    (two : text = b ++ y ++ d) : size a ≤ size b ↔ a.length ≤ b.length := by
  have same : a ++ (x ++ c) = b ++ (y ++ d) := by
    rw [← List.append_assoc, ← one, two, List.append_assoc]
  exact size_le_size_iff same

/-- No tag is opened from a place on exactly if what follows the place opens none. -/
theorem unopened_iff (done : List Char) {names : List String} :
    Unopened names rest ↔ ∀ name ∈ names, name ≠ "" → ∀ position, size done ≤ position →
      ¬ OpenedAt (done ++ rest) name position := by
  constructor
  · intro unopened name member proper position behind opened
    obtain ⟨a, b, whole, -⟩ := (openedAt_behind_iff behind).1 opened
    exact unopened name member proper ⟨a, b, whole.symm⟩
  · rintro unopened name member proper ⟨a, b, whole⟩
    have behind : size done ≤ size done + size a := Nat.le_add_right _ _
    exact unopened name member proper _ behind
      ((openedAt_behind_iff behind).2 ⟨a, b, whole.symm, rfl⟩)

end

section
variable {names : List String} {done rest : List Char} {found : TagMatch}

/-- The first tag of what follows a place is the first one that is opened from there on. -/
theorem Opens.firstFrom {before after : List Char} (opens : Opens names rest before found.name after)
    (position : found.position = size done + size before)
    (tagStart : found.tagStart = found.position + size (opening found.name)) :
    FirstFrom names (done ++ rest) (size done) found where
  behind := by omega
  tagStart := tagStart
  opened := by
    rw [tagStart, position]
    exact (openedAt_behind_iff (Nat.le_add_right _ _)).2 ⟨before, after, opens.whole, rfl⟩
  leftmost := by
    intro name member proper other behind opened
    obtain ⟨a, b, whole, rfl⟩ := (openedAt_behind_iff behind).1 opened
    have fewer := opens.leftmost name member proper a b whole
    have ordered := (size_le_iff_of_split opens.whole whole).2 fewer
    omega
  listed := by
    obtain ⟨earlier, later, split, proper, first⟩ := opens.listed
    refine ⟨earlier, later, split, proper, fun other member nonempty opened => ?_⟩
    rw [position, openedAt_place_iff (by rw [opens.whole, List.append_assoc])] at opened
    exact first other member nonempty opened

/-- The first tag that is opened from a place on is the first one of what follows the place. -/
theorem FirstFrom.opens (first : FirstFrom names (done ++ rest) (size done) found) :
    ∃ before after, Opens names rest before found.name after ∧
      found.position = size done + size before := by
  have opened : OpenedAt (done ++ rest) found.name found.position := by
    rw [OpenedAt, ← first.tagStart]
    exact first.opened
  obtain ⟨before, after, whole, position⟩ := (openedAt_behind_iff first.behind).1 opened
  refine ⟨before, after, ⟨whole, ?_, ?_⟩, position⟩
  · intro other member proper a b occurs
    have behind : size done ≤ size done + size a := Nat.le_add_right _ _
    have least := first.leftmost other member proper _ behind
      ((openedAt_behind_iff behind).2 ⟨a, b, occurs, rfl⟩)
    exact (size_le_iff_of_split whole occurs).1 (by omega)
  · obtain ⟨earlier, later, split, proper, unopened⟩ := first.listed
    refine ⟨earlier, later, split, proper, fun other member nonempty occurs => ?_⟩
    refine unopened other member nonempty ?_
    rw [position, openedAt_place_iff (by rw [whole, List.append_assoc])]
    exact occurs

theorem isSome_findTag_iff :
    (findTag names (String.ofList (done ++ rest)) (size done)).isSome = true ↔
      ∃ name ∈ names, name ≠ "" ∧
        ∃ position, size done ≤ position ∧ OpenedAt (done ++ rest) name position := by
  constructor
  · intro found
    by_contra none
    have unopened : Unopened names rest := (unopened_iff done).2
      fun name member proper position behind opened =>
        none ⟨name, member, proper, position, behind, opened⟩
    rw [findTag_eq_none_iff.2 unopened] at found
    cases found
  · rintro ⟨name, member, proper, position, behind, opened⟩
    cases search : findTag names (String.ofList (done ++ rest)) (size done) with
    | none =>
      have unopened := (unopened_iff done).1 (findTag_eq_none_iff.1 search)
      exact absurd opened (unopened name member proper position behind)
    | some found => rfl

theorem findTag_eq_some_iff_firstFrom :
    findTag names (String.ofList (done ++ rest)) (size done) = some found ↔
      FirstFrom names (done ++ rest) (size done) found := by
  rw [findTag_eq_some_iff]
  constructor
  · rintro ⟨before, after, opens, position, tagStart⟩
    exact opens.firstFrom position tagStart
  · intro first
    obtain ⟨before, after, opens, position⟩ := first.opens
    exact ⟨before, after, opens, position, first.tagStart⟩

end

/-- A search finds a tag exactly if it starts at a place of the text and a tag with one of the names, an
empty one apart, is opened there or further right. It is the first of these. -/
theorem findTag_firstFrom (names : List String) (text : String) (start : Nat) :
    ((findTag names text start).isSome = true ↔
      IsPlace text.toList start ∧ ∃ name ∈ names, name ≠ "" ∧
        ∃ position, start ≤ position ∧ OpenedAt text.toList name position) ∧
    ∀ found, findTag names text start = some found ↔
      IsPlace text.toList start ∧ FirstFrom names text.toList start found := by
  cases split : splitAt? text.toList start with
  | none =>
    have off : ¬ IsPlace text.toList start := by
      rintro ⟨before, after, place⟩
      rw [split] at place
      cases place
    have nothing : findTag names text start = none := by rw [findTag, split]
    simp [off, nothing]
  | some parts =>
    obtain ⟨done, rest⟩ := parts
    obtain ⟨whole, rfl⟩ := splitAt?_eq_some_iff.1 split
    obtain rfl : text = String.ofList (done ++ rest) := by rw [← whole, String.ofList_toList]
    rw [String.toList_ofList]
    have place := isPlace_size done rest
    exact ⟨isSome_findTag_iff.trans (and_iff_right place).symm,
      fun found => findTag_eq_some_iff_firstFrom.trans (and_iff_right place).symm⟩

/-- Two tags that start at the same place, and a search from within a character. -/
example : findTag ["", "a b", "a"] "é<a b >" 2 = some ⟨"a b", 2, 7⟩ ∧
    findTag ["a", "a b"] "é<a b >" 2 = some ⟨"a", 2, 5⟩ ∧ findTag ["a"] "é<a b >" 1 = none := by
  decide

end Transclude
