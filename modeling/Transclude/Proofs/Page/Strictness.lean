import Transclude.Proofs.Page.Pass

namespace Transclude

open Transclude.Text

/-- A text that starts with the opening of a tag and does not hold the end of the tag. -/
def Endless (names : List String) (cs : List Char) : Prop :=
  ∃ name ∈ names, name ≠ "" ∧ ∃ rest, cs = opening name ++ rest ∧ '>' ∉ rest

def Options.strictly (o : Options) : Options :=
  { o with strict := true }

namespace Pass

variable {o : Options} {hooks : PassHooks} {text : List Char} {rounds : List Round} {stop : Stop}

/-- The lenient pass takes the rounds of the strict one. It ends like that, and where that fails for a
tag without an end, the tag stays. -/
theorem of_strictly (mode : o.strict = false)
    (same : ∀ tag attributes, Handed o hooks text tag attributes →
      hooks.answer o.strictly tag attributes = hooks.answer o tag attributes)
    (pass : Pass o.strictly hooks text rounds stop) :
    match stop with
    | .unterminated before => ∃ back, Endless o.directiveTag back ∧
        Pass o hooks text rounds (.rest (before ++ back))
    | stop => Pass o hooks text rounds stop := by
  induction pass with
  | clear unopened => exact .clear unopened
  | lenient _ _ strictly => cases strictly
  | @strict text before rest name opens endless _ =>
    refine ⟨opening name ++ rest, ⟨name, opens.mem, opens.ne_empty, rest, rfl, endless⟩, ?_⟩
    rw [← List.append_assoc, ← opens.whole]
    exact .lenient opens endless mode
  | failed opens inside answer =>
    rw [same _ _ (.first opens inside)] at answer
    exact .failed opens inside answer
  | @round text before attributes after name rewrite rounds stop opens inside answer later ih =>
    rw [same _ _ (.first opens inside)] at answer
    have further := ih fun tag attributes handed =>
      same tag attributes (.later opens inside answer handed)
    cases stop with
    | rest rest => exact .round opens inside answer further
    | failed error => exact .round opens inside answer further
    | unterminated before' =>
      obtain ⟨back, endless, further⟩ := further
      exact ⟨back, endless, .round opens inside answer further⟩

end Pass

/-- What the lenient mode comes to beside what the strict mode comes to. -/
inductive Modes (names : List String) (text : List Char) :
    Except ResolveError Page → Except ResolveError Page → Prop where
  | page (page : Page) : Modes names text (.ok page) (.ok page)
  | refused {error : ResolveError} (other : ∀ position, error ≠ .unterminatedTag position) :
      Modes names text (.error error) (.error error)
  | unterminated {page : Page} {position : Nat} {front back : List Char}
      (split : splitAt? page.resource.toList position = some (front, back))
      (unread : back <:+ text) (endless : Endless names back) :
      Modes names text (.error (.unterminatedTag position)) (.ok page)

section
variable {o : Options} {hooks : PassHooks} {text : String} (mode : o.strict = false)
  (same : ∀ tag attributes, Handed o hooks.searching text.toList tag attributes →
    hooks.searching.answer o.strictly tag attributes = hooks.searching.answer o tag attributes)
  (ends : hooks.searching.NeverUnterminated o text.toList)
include mode same ends

private theorem modes :
    Modes o.directiveTag text.toList (parse o.strictly hooks.searching text)
      (parse o hooks.searching text) := by
  obtain ⟨rounds, stop, pass⟩ := Pass.exists_pass o.strictly hooks.searching text.toList
  have alike := pass.of_strictly mode same
  rw [parse_of_pass hooks.findTag_searching pass]
  cases stop with
  | rest rest =>
    rw [parse_of_pass hooks.findTag_searching alike]
    exact .page _
  | failed error =>
    rw [parse_of_pass hooks.findTag_searching alike]
    refine .refused fun position unterminated => ?_
    obtain ⟨tag, attributes, handed, answer⟩ := alike.exists_handed
    exact ends tag attributes handed position (unterminated ▸ answer)
  | unterminated before =>
    obtain ⟨back, endless, alike⟩ := alike
    rw [parse_of_pass hooks.findTag_searching alike]
    have split : splitAt? (Pass.page rounds (before ++ back)).resource.toList
        (size (Pass.written rounds) + size before) = some (Pass.written rounds ++ before, back) :=
      splitAt?_eq_some_iff.2 ⟨by simp [Pass.page], by simp⟩
    exact .unterminated split ((List.suffix_append before back).trans alike.rest_suffix) endless

end

/-- Strict mode adds one error, for a tag without an end that the lenient mode leaves as it stands, with
all that follows. Otherwise both modes come to the same page or the same error. -/
theorem parse_strictly (o : Options) (hooks : PassHooks) (text : String) (mode : o.strict = false)
    (same : ∀ tag attributes, Handed o hooks.searching text.toList tag attributes →
      hooks.searching.answer o.strictly tag attributes = hooks.searching.answer o tag attributes)
    (ends : hooks.searching.NeverUnterminated o text.toList) :
    (∀ page, parse o.strictly hooks.searching text = .ok page →
      parse o hooks.searching text = .ok page) ∧
    (∀ position, parse o.strictly hooks.searching text = .error (.unterminatedTag position) →
      ∃ page front back, parse o hooks.searching text = .ok page ∧
        splitAt? page.resource.toList position = some (front, back) ∧
        back <:+ text.toList ∧ Endless o.directiveTag back) ∧
    (∀ error, (∀ position, error ≠ .unterminatedTag position) →
      parse o.strictly hooks.searching text = .error error →
        parse o hooks.searching text = .error error) ∧
    ∀ page, parse o hooks.searching text = .ok page →
      parse o.strictly hooks.searching text = .ok page ∨
        ∃ position, parse o.strictly hooks.searching text = .error (.unterminatedTag position) := by
  have outcomes := modes mode same ends
  generalize parse o.strictly hooks.searching text = strict at outcomes
  generalize parse o hooks.searching text = lenient at outcomes
  cases outcomes with
  | page page => exact ⟨fun _ same => same, nofun, nofun, fun _ same => .inl same⟩
  | refused other =>
    refine ⟨nofun, ?_, fun _ _ same => same, nofun⟩
    intro position same
    cases same
    exact absurd rfl (other position)
  | unterminated split unread endless =>
    refine ⟨nofun, ?_, ?_, fun _ _ => .inr ⟨_, rfl⟩⟩
    · intro position same
      cases same
      exact ⟨_, _, _, rfl, split, unread, endless⟩
    · intro error other same
      cases same
      exact absurd rfl (other _)

/-- A rule that takes every tag out, on a text that is cut off in its second tag. -/
theorem parse_strictly_cut_off :
    let hooks : PassHooks :=
      { Hooks.builtin.toPassHooks with processTag := fun _ _ _ _ => .ok .removed }
    Options.builtin.strict = false ∧
    parse Options.builtin.strictly hooks.searching "a<link x>b<x-link y" =
      .error (.unterminatedTag 2) ∧
    ∃ page front back, parse .builtin hooks.searching "a<link x>b<x-link y" = .ok page ∧
      splitAt? page.resource.toList 2 = some (front, back) ∧
      back <:+ "a<link x>b<x-link y".toList ∧ Endless Options.builtin.directiveTag back := by
  intro hooks
  have fails : parse Options.builtin.strictly hooks.searching "a<link x>b<x-link y" =
      .error (.unterminatedTag 2) := rfl
  obtain ⟨-, tag, -⟩ := parse_strictly .builtin hooks "a<link x>b<x-link y" rfl
    (fun _ _ _ => rfl) (fun _ _ _ _ refused => by cases refused)
  exact ⟨rfl, fails, tag 2 fails⟩

end Transclude
