import Transclude.Directive.Process

/-!
# One pass over a page

The text is edited in place. A cursor stands behind what is done; the next tag is looked for from
there, what becomes of it takes its place, and the cursor moves behind that, so that replaced text is
never looked at again. The search is asked once more than there are bytes in the text at most: every
answer moves the cursor over a byte of the text that was given.
-/

namespace Transclude

open Transclude.Text

/-- A text under work: the document as it stands, how far it is done in bytes, and what was recorded. -/
structure Scan where
  document : String
  cursor : Nat := 0
  dependencies : Dependencies := .empty
  inclusions : Inclusions := .empty

namespace Scan

/-- The byte offset of the first `>` from an offset on. -/
def close? (document : List Char) (start : Nat) : Option Nat :=
  match splitAt? document start with
  | none => none
  | some (_, rest) => (splitOnce? '>' rest).map fun (before, _) => start + size before

/-- The end of a tag is the first `>` from an offset on, which has to be a place of the text. -/
theorem close?_eq_some_iff {document : List Char} {start close : Nat} :
    close? document start = some close ↔ ∃ front inner after,
      document = front ++ inner ++ '>' :: after ∧ '>' ∉ inner ∧ size front = start ∧
        close = size front + size inner := by
  unfold close?
  constructor
  · intro found
    split at found
    · cases found
    · next split =>
      obtain ⟨rfl, sized⟩ := splitAt?_eq_some_iff.1 split
      obtain ⟨⟨inner, after⟩, ends, rfl⟩ := Option.map_eq_some_iff.1 found
      obtain ⟨rfl, inside⟩ := splitOnce?_eq_some_iff.1 ends
      exact ⟨_, inner, after, by simp, inside, sized, by rw [sized]⟩
  · rintro ⟨front, inner, after, rfl, inside, rfl, rfl⟩
    simp [splitOnce?_eq_some_iff.2 ⟨rfl, inside⟩]

/-- A document cut at a tag: what stands before it, the tag, its attributes, and what stands behind. -/
structure Cut where
  before : List Char
  tag : List Char
  attributes : List Char
  after : List Char

/-- Cuts a document at a tag that was found and whose `>` stands at an offset. -/
def cut? (document : List Char) (found : TagMatch) (close : Nat) : Option Cut :=
  match splitAt? document found.position with
  | none => none
  | some (before, rest) =>
    match splitAt? rest (close + 1 - found.position), slice? document found.tagStart close with
    | some (tag, after), some attributes => some ⟨before, tag, attributes, after⟩
    | _, _ => none

/-- A tag is cut out with what stands before and behind it. -/
theorem cut?_append (found : TagMatch) (before opener attributes after : List Char)
    (position : found.position = size before) (tagStart : found.tagStart = size (before ++ opener)) :
    cut? (before ++ (opener ++ attributes ++ ['>']) ++ after) found
      (size (before ++ opener ++ attributes)) =
        some ⟨before, opener ++ attributes ++ ['>'], attributes, after⟩ := by
  have front : splitAt? (before ++ (opener ++ attributes ++ ['>']) ++ after) found.position =
      some (before, opener ++ attributes ++ ['>'] ++ after) := by
    rw [position, List.append_assoc before, splitAt?_append]
  have tag : splitAt? (opener ++ attributes ++ ['>'] ++ after)
      (size (before ++ opener ++ attributes) + 1 - found.position) =
        some (opener ++ attributes ++ ['>'], after) := by
    refine splitAt?_eq_some_iff.2 ⟨rfl, ?_⟩
    simp only [position, size_append, size_cons, size_nil, show '>'.utf8Size = 1 from rfl]
    omega
  have inner : slice? (before ++ (opener ++ attributes ++ ['>']) ++ after) found.tagStart
      (size (before ++ opener ++ attributes)) = some attributes := by
    have whole : before ++ (opener ++ attributes ++ ['>']) ++ after =
        before ++ opener ++ attributes ++ '>' :: after := by simp
    rw [whole, tagStart, size_append (before ++ opener), slice?_append]
  rw [cut?, front]
  simp only [tag, inner]

/-- Puts what became of a tag in its place and moves the cursor behind it. -/
def place (s : Scan) (cut : Cut) (rewrite : Rewrite) : Scan where
  document := String.ofList (cut.before ++ rewrite.text.toList ++ cut.after)
  cursor := size cut.before + size rewrite.text.toList
  dependencies := s.dependencies.pushAll rewrite.dependencies
  inclusions := s.inclusions.insertAny rewrite.inclusion

inductive Step where
  | next (s : Scan)
  | finished
  | failed (error : ResolveError)

/-- Works the next tag in. A tag without a `>` ends the pass or, in strict mode, fails it; a `>` that
does not stand behind the opening of the tag is passed over. -/
def step (o : Options) (hooks : PassHooks) (s : Scan) : Step :=
  match hooks.findTag o s.document s.cursor with
  | none => .finished
  | some found =>
    match close? s.document.toList found.tagStart with
    | none => if o.strict then .failed (.unterminatedTag found.position) else .finished
    | some close =>
      if close ≤ found.position then .next { s with cursor := close + 1 }
      else match cut? s.document.toList found close with
        | none => .failed (.misplacedTag found)
        | some cut =>
          match hooks.processTag o hooks.toTagHooks (String.ofList cut.tag)
              (Attributes.parse (String.ofList cut.attributes)) with
          | .error error => .failed error
          | .ok rewrite => .next (s.place cut rewrite)

/-- Works tags in until there is none left; the number bounds the searches. -/
def run (o : Options) (hooks : PassHooks) : Nat → Scan → Except ResolveError Scan
  | 0, _ => .error .endlessSearch
  | searches + 1, s =>
    match s.step o hooks with
    | .next s => run o hooks searches s
    | .finished => .ok s
    | .failed error => .error error

def page (s : Scan) : Page where
  resource := s.document
  dependencies := s.dependencies
  inclusions := if s.inclusions.entries.isEmpty then none else some s.inclusions

end Scan

/-- Works the directives of a text in. -/
def parse (o : Options) (hooks : PassHooks) (text : String) : Except ResolveError Page :=
  (Scan.run o hooks (size text.toList + 1) { document := text }).map Scan.page

namespace Hooks

/-- The rules of a host that replaces none. -/
def builtin : Hooks where
  findTag o text start := Transclude.findTag o.directiveTag text start
  filterTag _ attributes := attributes.kind?
  processIf o context := Condition.evaluate context.condition o
  processTag := Directive.processTag
  parse := Transclude.parse

def describe (_ : Hooks) : String :=
  "Hooks \x7b .. \x7d"

end Hooks

end Transclude
