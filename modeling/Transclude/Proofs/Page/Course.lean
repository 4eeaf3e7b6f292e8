import Transclude.Proofs.Page.Pass

/-!
# Passes with a search of the host's own

A host can replace the search for tags. `Course` follows a pass from one search to the next without
any bound on their number. As long as the search answers with places of the text that are not behind
the cursor, each search that leads on leaves less of the text unread (`Scan.Stands.advance`), however
much the text has grown, and no offset is ever out of place (`parse_ends`).
-/

namespace Transclude

open Transclude.Text

namespace Text

/-- An offset at which one character of a text ends and the next one starts, or the text does. -/
def IsPlace (cs : List Char) (offset : Nat) : Prop :=
  ∃ before after, splitAt? cs offset = some (before, after)

theorem isPlace_size (a b : List Char) : IsPlace (a ++ b) (size a) :=
  ⟨a, b, splitAt?_append a b⟩

/-- Of two places of a text the one with the lower offset comes first. -/
theorem exists_between_of_size_le {a b c d : List Char} (same : a ++ c = b ++ d)
    (fits : size a ≤ size b) : ∃ e, b = a ++ e ∧ c = e ++ d := by
  obtain ⟨e, rfl⟩ := List.prefix_of_prefix_length_le ⟨c, rfl⟩ ⟨d, same.symm⟩
    ((size_le_size_iff same).1 fits)
  exact ⟨e, rfl, List.append_cancel_left (by rw [same, List.append_assoc])⟩

end Text

/-- A search that answers with a place of the text, at or behind the offset it starts from, and with
an offset of the attributes that is not in front of that. -/
def TagHooks.Forward (hooks : TagHooks) (o : Options) : Prop :=
  ∀ text start found, hooks.findTag o text start = some found →
    start ≤ found.position ∧ found.position ≤ found.tagStart ∧ IsPlace text.toList found.position

namespace Scan

/-- The states of a pass at its searches, from a given one on, and how the last search ends it. -/
inductive Course (o : Options) (hooks : PassHooks) :
    Scan → List Scan → Except ResolveError Scan → Prop where
  | finished {s : Scan} (last : s.step o hooks = .finished) : Course o hooks s [s] (.ok s)
  | failed {s : Scan} {error : ResolveError} (last : s.step o hooks = .failed error) :
      Course o hooks s [s] (.error error)
  | next {s t : Scan} {states : List Scan} {result : Except ResolveError Scan}
      (moves : s.step o hooks = .next t) (later : Course o hooks t states result) :
      Course o hooks s (s :: states) result

/-- A state whose offsets are places of its text: that of the cursor, and those at which the tag found
from there on and its attributes are cut out. -/
structure InPlace (o : Options) (hooks : PassHooks) (s : Scan) : Prop where
  cursor : IsPlace s.document.toList s.cursor
  slices : ∀ found close, hooks.findTag o s.document s.cursor = some found →
    close? s.document.toList found.tagStart = some close → found.position < close →
    (∃ tag, slice? s.document.toList found.position (close + 1) = some tag) ∧
      ∃ attributes, slice? s.document.toList found.tagStart close = some attributes

/-- A state in which `done` stands in front of the cursor and `rest` is not read yet. -/
structure Stands (s : Scan) (done rest : List Char) : Prop where
  document : s.document.toList = done ++ rest
  cursor : s.cursor = size done

/-- What a search can come to while `rest` is not read yet: it leads on with less of it, or it is the
last one, and then a tag has no end or the rule for tags failed if the pass fails. -/
inductive Advance (o : Options) (hooks : PassHooks) (rest : List Char) : Step → Prop where
  | finished : Advance o hooks rest .finished
  | endless {position : Nat} (mode : o.strict = true) :
      Advance o hooks rest (.failed (.unterminatedTag position))
  | refused {tag attributes : List Char} {error : ResolveError}
      (answer : hooks.answer o tag attributes = .error error) :
      Advance o hooks rest (.failed error)
  | next {t : Scan} {done rest' : List Char} (stands : t.Stands done rest')
      (unread : rest' <:+ rest) (fewer : rest'.length < rest.length) :
      Advance o hooks rest (.next t)

section
variable {o : Options} {hooks : PassHooks} {s : Scan} {done rest : List Char}

/-- A tag that is found and has an end lies in what is not read yet. -/
theorem Stands.tag (stands : s.Stands done rest) (forward : hooks.Forward o) {found : TagMatch}
    {close : Nat} (search : hooks.findTag o s.document s.cursor = some found)
    (ends : close? s.document.toList found.tagStart = some close) :
    ∃ skipped opener attributes after,
      rest = skipped ++ opener ++ attributes ++ '>' :: after ∧
      found.position = size (done ++ skipped) ∧
      found.tagStart = size (done ++ skipped ++ opener) ∧
      close = size (done ++ skipped ++ opener ++ attributes) := by
  obtain ⟨ahead, inward, before, behind, split⟩ := forward _ _ _ search
  obtain ⟨placed, position⟩ := splitAt?_eq_some_iff.1 split
  obtain ⟨front, attributes, after, whole, -, tagStart, rfl⟩ := close?_eq_some_iff.1 ends
  rw [stands.document] at placed
  rw [stands.document, List.append_assoc] at whole
  rw [stands.cursor] at ahead
  obtain ⟨skipped, rfl, unread⟩ := exists_between_of_size_le placed (by omega)
  obtain ⟨opener, rfl, inner⟩ := exists_between_of_size_le (placed.symm.trans whole) (by omega)
  refine ⟨skipped, opener, attributes, after, ?_, position.symm, tagStart.symm, by simp [Nat.add_assoc]⟩
  rw [unread, inner, List.append_assoc, List.append_assoc]

theorem Stands.inPlace (stands : s.Stands done rest) (forward : hooks.Forward o) :
    s.InPlace o hooks where
  cursor := by
    rw [stands.document, stands.cursor]
    exact isPlace_size done rest
  slices found close search ends _ := by
    obtain ⟨skipped, opener, attributes, after, rfl, position, tagStart, rfl⟩ :=
      stands.tag forward search ends
    rw [stands.document, position, tagStart]
    constructor
    · refine ⟨opener ++ attributes ++ ['>'], ?_⟩
      have piece := slice?_append (done ++ skipped) (opener ++ attributes ++ ['>']) after
      simpa [Nat.add_assoc, show '>'.utf8Size = 1 from rfl] using piece
    · refine ⟨attributes, ?_⟩
      have piece := slice?_append (done ++ skipped ++ opener) attributes ('>' :: after)
      simpa [Nat.add_assoc] using piece

/-- A search leads on with less of the text unread, or it is the last one. -/
theorem Stands.advance (stands : s.Stands done rest) (forward : hooks.Forward o) :
    Advance o hooks rest (s.step o hooks) := by
  cases search : hooks.findTag o s.document s.cursor with
  | none =>
    rw [step, search]
    exact .finished
  | some found =>
    cases ends : close? s.document.toList found.tagStart with
    | none =>
      simp only [step, search, ends]
      cases mode : o.strict with
      | false => exact .finished
      | true => exact .endless mode
    | some close =>
      obtain ⟨skipped, opener, attributes, after, rfl, position, tagStart, rfl⟩ :=
        stands.tag forward search ends
      have unread : after <:+ skipped ++ opener ++ attributes ++ '>' :: after :=
        (List.suffix_cons _ _).trans (List.suffix_append _ _)
      have fewer : after.length < (skipped ++ opener ++ attributes ++ '>' :: after).length := by
        simp only [List.length_append, List.length_cons]
        omega
      by_cases degenerate : size (done ++ skipped ++ opener ++ attributes) ≤ found.position
      · simp only [step, search, ends, if_pos degenerate]
        have behind : Stands { s with cursor := size (done ++ skipped ++ opener ++ attributes) + 1 }
            (done ++ skipped ++ opener ++ attributes ++ ['>']) after := by
          constructor
          · simp [stands.document]
          · simp [Nat.add_assoc, show '>'.utf8Size = 1 from rfl]
        exact .next behind unread fewer
      · have parted : cut? s.document.toList found (size (done ++ skipped ++ opener ++ attributes)) =
            some ⟨done ++ skipped, opener ++ attributes ++ ['>'], attributes, after⟩ := by
          have whole : s.document.toList =
              done ++ skipped ++ (opener ++ attributes ++ ['>']) ++ after := by
            simp [stands.document]
          rw [whole, cut?_append found _ opener attributes after position tagStart]
        simp only [step, search, ends, if_neg degenerate, parted]
        cases answer : hooks.answer o (opener ++ attributes ++ ['>']) attributes with
        | error error =>
          rw [PassHooks.answer] at answer
          rw [answer]
          exact .refused answer
        | ok rewrite =>
          rw [PassHooks.answer] at answer
          rw [answer]
          have behind : (s.place ⟨done ++ skipped, opener ++ attributes ++ ['>'], attributes, after⟩
              rewrite).Stands (done ++ skipped ++ rewrite.text.toList) after := by
            constructor
            · simp [place]
            · simp [place, Nat.add_assoc]
          exact .next behind unread fewer

/-- Every pass ends, after no more searches than there are characters left and one. -/
theorem Stands.exists_course (stands : s.Stands done rest) (forward : hooks.Forward o) :
    ∃ states result, Course o hooks s states result ∧ states.length ≤ rest.length + 1 ∧
      (∀ t ∈ states, t.InPlace o hooks) ∧
      ∀ error, result = .error error →
        (∃ position, o.strict = true ∧ error = .unterminatedTag position) ∨
          ∃ tag attributes, hooks.answer o tag attributes = .error error := by
  induction sized : rest.length using Nat.strongRecOn generalizing s done rest with
  | _ n ih =>
    have here : ∀ t ∈ [s], t.InPlace o hooks := by simpa using stands.inPlace forward
    have advance := stands.advance forward
    cases search : s.step o hooks with
    | finished => exact ⟨[s], _, .finished search, by simp, here, nofun⟩
    | failed error =>
      refine ⟨[s], _, .failed search, by simp, here, ?_⟩
      rintro _ ⟨⟩
      rw [search] at advance
      cases advance with
      | endless mode => exact .inl ⟨_, mode, rfl⟩
      | refused answer => exact .inr ⟨_, _, answer⟩
    | next t =>
      rw [search] at advance
      cases advance with
      | next stands' _ fewer =>
        obtain ⟨states, result, later, few, inPlace, fails⟩ := ih _ (sized ▸ fewer) stands' rfl
        refine ⟨s :: states, result, .next search later, ?_, ?_, fails⟩
        · simp only [List.length_cons]
          omega
        · intro u member
          rcases List.mem_cons.1 member with rfl | member
          · exact stands.inPlace forward
          · exact inPlace u member

/-- A bound that allows for every search of a pass does not show. -/
theorem run_of_course {states : List Scan} {result : Except ResolveError Scan}
    (course : Course o hooks s states result) {searches : Nat} (enough : states.length ≤ searches) :
    run o hooks searches s = result := by
  induction course generalizing searches with
  | finished last =>
    obtain ⟨searches, rfl⟩ := Nat.exists_eq_add_of_le' enough
    simp [run, last]
  | failed last =>
    obtain ⟨searches, rfl⟩ := Nat.exists_eq_add_of_le' enough
    simp [run, last]
  | next moves later ih =>
    obtain ⟨searches, rfl⟩ := Nat.exists_eq_add_of_le' (Nat.le_trans (Nat.le_add_left 1 _) enough)
    rw [run, moves]
    exact ih (Nat.le_of_succ_le_succ enough)

end

end Scan

/-- A pass whose search answers with places ahead ends after one search more than there are bytes in
the text at most. No offset is out of place at any of them, the cursor's included, and the pass fails
only for a tag without an end or with the rule for tags. -/
theorem parse_ends (o : Options) (hooks : PassHooks) (text : String) (forward : hooks.Forward o) :
    ∃ states result, Scan.Course o hooks { document := text } states result ∧
      parse o hooks text = result.map Scan.page ∧
      states.length ≤ size text.toList + 1 ∧
      (∀ s ∈ states, s.InPlace o hooks) ∧
      ∀ error, result = .error error →
        (∃ position, o.strict = true ∧ error = .unterminatedTag position) ∨
          ∃ tag attributes, hooks.answer o tag attributes = .error error := by
  have start : ({ document := text } : Scan).Stands [] text.toList := ⟨rfl, rfl⟩
  obtain ⟨states, result, course, few, inPlace, fails⟩ := start.exists_course forward
  have bound : states.length ≤ size text.toList + 1 :=
    Nat.le_trans few (Nat.succ_le_succ (length_le_size _))
  refine ⟨states, result, course, ?_, bound, inPlace, fails⟩
  rw [parse, Scan.run_of_course course bound]

/-- A search that finds a tag at the cursor, with its attributes past the end of the text if no `>` is
left, and a rule that writes every tag twice. -/
theorem parse_ends_growing :
    let hooks : PassHooks :=
      { Hooks.builtin.toPassHooks with
        findTag := fun _ text start => (splitAt? text.toList start).map fun (_, rest) =>
          ⟨"", start, if '>' ∈ rest then start else start + 100⟩
        processTag := fun _ _ tag _ => .ok ⟨[], none, tag ++ tag⟩ }
    hooks.Forward .builtin ∧ parse .builtin hooks ">é>b" = .ok ⟨">é>é>b", .empty, none⟩ ∧
      ∃ states result, Scan.Course .builtin hooks { document := ">é>b" } states result ∧
        states.length ≤ 6 ∧ ∀ s ∈ states, s.InPlace .builtin hooks := by
  intro hooks
  have forward : hooks.Forward .builtin := by
    intro text start found search
    obtain ⟨⟨before, rest⟩, split, rfl⟩ := Option.map_eq_some_iff.1 search
    refine ⟨Nat.le_refl _, ?_, before, rest, split⟩
    dsimp only
    split <;> omega
  obtain ⟨states, result, course, -, few, inPlace, -⟩ := parse_ends .builtin hooks ">é>b" forward
  exact ⟨forward, rfl, states, result, course, few, inPlace⟩

end Transclude
