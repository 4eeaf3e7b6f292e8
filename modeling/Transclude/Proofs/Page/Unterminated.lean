import Transclude.Proofs.Condition.Evaluation
import Transclude.Proofs.Page.Contract
import Transclude.Proofs.Page.Strictness

/-!
# Where a tag without an end is reported

The reported place counts in the text as it is edited up to there. It is the place in the text as it was
given only as long as what earlier tags became takes as many bytes as they did: a style sheet in front,
whose tag is taken out, is enough to set them apart (`unterminatedTag_displaced`).
-/

namespace Transclude

open Transclude.Text

/-- The built-in rules fail for conditions only. -/
theorem Hooks.builtin_neverUnterminated (o : Options) (text : List Char) :
    Hooks.builtin.toPassHooks.NeverUnterminated o text := by
  intro tag attributes _ position refused
  obtain ⟨href, condition, -, -, -, fails⟩ := Directive.processTag_eq_error_iff.1 refused
  obtain ⟨cause, other⟩ := Condition.evaluate_error fails
  cases other

namespace Pass

/-- What rounds take off a text. -/
def read (rounds : List Round) : List Char :=
  rounds.flatMap fun r => r.before ++ r.tag

@[simp] theorem read_nil : read [] = [] := rfl

@[simp] theorem read_cons (r : Round) (rounds : List Round) :
    read (r :: rounds) = r.before ++ r.tag ++ read rounds := rfl

variable {o : Options} {hooks : PassHooks} {text before : List Char} {rounds : List Round}

/-- Behind what a pass has read up to a tag without an end stands that tag. -/
theorem endless_of_unterminated (pass : Pass o hooks text rounds (.unterminated before)) :
    ∃ back, text = read rounds ++ before ++ back ∧ Endless o.directiveTag back := by
  generalize stopped : Stop.unterminated before = stop at pass
  induction pass with
  | clear | lenient | failed => cases stopped
  | @strict text before rest name opens endless mode =>
    cases stopped
    refine ⟨opening name ++ rest, ?_, name, opens.mem, opens.ne_empty, rest, rfl, endless⟩
    rw [opens.whole]
    simp
  | @round text before' attributes after name rewrite rounds stop opens inside answer later ih =>
    obtain ⟨back, rfl, endless⟩ := ih stopped
    refine ⟨back, ?_, endless⟩
    rw [opens.whole]
    simp [tagText]

end Pass

/-- A tag without an end is reported at the place where it stands in the edited text. In the text as it
was given it stands behind what was read up to there, which is the reported place exactly if what became
of that takes as many bytes. -/
theorem parse_eq_unterminatedTag_iff (o : Options) (text : String) (position : Nat) :
    parse o Hooks.builtin.toPassHooks text = .error (.unterminatedTag position) ↔
      ∃ rounds before back,
        Pass o Hooks.builtin.toPassHooks text.toList rounds (.unterminated before) ∧
        position = size (Pass.written rounds ++ before) ∧
        splitAt? text.toList (size (Pass.read rounds ++ before)) =
          some (Pass.read rounds ++ before, back) ∧
        Endless o.directiveTag back ∧
        (position = size (Pass.read rounds ++ before) ↔
          size (Pass.written rounds) = size (Pass.read rounds)) := by
  constructor
  · intro fails
    obtain ⟨rounds, stop, pass⟩ := Pass.exists_pass o Hooks.builtin.toPassHooks text.toList
    rw [parse_of_pass rfl pass] at fails
    cases stop with
    | rest rest => cases fails
    | failed error =>
      cases fails
      obtain ⟨tag, attributes, handed, answer⟩ := pass.exists_handed
      exact absurd answer (Hooks.builtin_neverUnterminated o _ tag attributes handed position)
    | unterminated before =>
      cases fails
      obtain ⟨back, whole, endless⟩ := pass.endless_of_unterminated
      refine ⟨rounds, before, back, pass, by rw [size_append], ?_, endless, ?_⟩
      · rw [whole, splitAt?_append]
      · rw [size_append, Nat.add_right_cancel_iff]
  · rintro ⟨rounds, before, back, pass, rfl, -⟩
    rw [parse_of_pass rfl pass, Pass.outcome, size_append]

/-- A style sheet, whose tag is taken out, in front of a tag without an end. -/
private theorem parse_sheet_cut_off :
    parse Options.builtin.strictly Hooks.builtin.toPassHooks "<link rel=css href=a><link " =
      .error (.unterminatedTag 0) := by
  let strict := Options.builtin.strictly
  let hooks := Hooks.builtin.toPassHooks
  let inner := "rel=css href=a".toList
  have answer : hooks.answer strict (tagText "link" inner) inner = .ok (.dependency "css!a") := by
    have read : Attributes.parse (String.ofList "rel=css href=a".toList) =
        ⟨[("href", "a"), ("rel", "css")]⟩ := by cbv
    exact PassHooks.answer_dependency rfl read (by cbv) (by decide) rfl (by cbv)
  have sheet : Opens ["link", "x-link"] "<link rel=css href=a><link ".toList [] "link"
      (inner ++ '>' :: opening "link") := by
    have whole : "<link rel=css href=a><link ".toList =
        opening "link" ++ (inner ++ '>' :: opening "link") := by decide
    exact whole ▸ .start (by decide) _ _
  have cutOff : Opens ["link", "x-link"] (opening "link") [] "link" [] := by
    simpa using Opens.start (by decide : "link" ≠ "") ["x-link"] []
  have pass : Pass strict hooks "<link rel=css href=a><link ".toList
      [⟨[], tagText "link" inner, inner, .dependency "css!a"⟩] (.unterminated []) :=
    .round sheet (by decide) answer (.strict cutOff List.not_mem_nil rfl)
  exact parse_of_pass rfl pass

/-- The reported place need not be that of a tag without an end in the text as it was given. -/
theorem unterminatedTag_displaced :
    ¬ ∀ (o : Options) (text : String) (position : Nat), o.strict = true →
      parse o Hooks.builtin.toPassHooks text = .error (.unterminatedTag position) →
        ∃ front back, splitAt? text.toList position = some (front, back) ∧
          Endless o.directiveTag back := by
  intro claimed
  obtain ⟨front, back, split, name, member, -, rest, rfl, endless⟩ :=
    claimed _ _ _ rfl parse_sheet_cut_off
  obtain ⟨whole, sized⟩ := splitAt?_eq_some_iff.1 split
  have empty : front = [] := by
    cases front with
    | nil => rfl
    | cons c front =>
      have := c.utf8Size_pos
      simp only [size_cons] at sized
      omega
  -- The tag of the style sheet stands at the reported place, and it has an end.
  have ends : '>' ∈ opening name ++ rest := by
    rw [← List.nil_append (opening name ++ rest), ← empty, ← whole]
    decide
  rcases List.mem_append.1 ends with inside | inside
  · have free : ∀ name ∈ ["link", "x-link"], '>' ∉ opening name := by decide
    exact free name member inside
  · exact endless inside

end Transclude
