import Mathlib.Data.List.Basic
import Transclude.Page.Splice
import Transclude.Proofs.Text.Occurrence

/-!
# Contents in place of placeholders, all at once

Contents are put in one identifier after the other. On a text made of placeholders and of texts in which
every `<` is followed by a `>`, that comes to putting them in all at once: no placeholder arises where
two pieces meet.
-/

namespace Transclude

open Transclude.Text

/-- Every `<` of a text is followed by a `>`. -/
def AngleClosed (cs : List Char) : Prop :=
  ∀ a b, cs = a ++ '<' :: b → '>' ∈ b

theorem angleClosed_of_not_mem {cs : List Char} (unopened : '<' ∉ cs) : AngleClosed cs := by
  intro a b whole
  exact absurd (by simp [whole]) unopened

theorem angleClosed_of_ends (cs : List Char) : AngleClosed (cs ++ ['>']) := by
  intro a b whole
  rcases List.append_eq_append_iff.1 whole with ⟨later, -, tail⟩ | ⟨cut, -, tail⟩
  · have opened : '<' ∈ ['>'] := by rw [tail]; simp
    simp at opened
  · cases cut with
    | nil => cases (List.cons.inj tail).1
    | cons c cut => simp [(List.cons.inj tail).2]

/-- A text that holds one `<`, in front, and one `>`, behind. -/
def Bracketed (cs : List Char) : Prop :=
  ∃ inner, cs = '<' :: inner ++ ['>'] ∧ '<' ∉ inner ∧ '>' ∉ inner

namespace Bracketed

variable {piece other : List Char}

theorem ne_nil (bracketed : Bracketed piece) : piece ≠ [] := by
  obtain ⟨inner, rfl, -⟩ := bracketed
  simp

theorem angleClosed (bracketed : Bracketed piece) : AngleClosed piece := by
  obtain ⟨inner, rfl, -⟩ := bracketed
  exact angleClosed_of_ends ('<' :: inner)

/-- A bracketed piece of a bracketed text is the whole text. -/
theorem eq_of_inside (one : Bracketed piece) (two : Bracketed other) (inside : piece <:+: other) :
    piece = other := by
  obtain ⟨inner, rfl, -, unclosed⟩ := one
  obtain ⟨inner', rfl, unopened', unclosed'⟩ := two
  obtain ⟨a, b, whole⟩ := inside
  cases a with
  | nil =>
    have tails : inner ++ '>' :: b = inner' ++ '>' :: [] := by simpa using whole
    rw [(split_unique tails unclosed unclosed').1]
  | cons c a =>
    have tails : a ++ '<' :: (inner ++ '>' :: b) = inner' ++ ['>'] := by
      simpa using (List.cons.inj whole).2
    have opened : '<' ∈ inner' ++ ['>'] := by simp [← tails]
    simp [unopened'] at opened

/-- Behind a closed text in which a bracketed piece does not stand, the piece starts no earlier than
that text ends. -/
theorem starts_behind {a rest before after : List Char} (bracketed : Bracketed piece)
    (closed : AngleClosed a) (apart : ¬ piece <:+: a)
    (whole : a ++ rest = before ++ piece ++ after) :
    ∃ later, before = a ++ later ∧ rest = later ++ piece ++ after := by
  obtain ⟨inner, rfl, -, unclosed⟩ := bracketed
  rw [List.append_assoc] at whole
  rcases List.append_eq_append_iff.1 whole with ⟨later, split, tail⟩ | ⟨cut, split, tail⟩
  · exact ⟨later, split, by rw [tail, List.append_assoc later]⟩
  · cases cut with
    | nil => exact ⟨[], by simpa using split.symm, by simpa using tail.symm⟩
    | cons c cut =>
      -- The piece starts inside the closed text, and so it would end there too.
      obtain ⟨rfl, tails⟩ := List.cons.inj tail
      obtain ⟨front, back, rfl, clear⟩ := List.eq_append_cons_of_mem (closed before cut split)
      have ends : inner ++ '>' :: after = front ++ '>' :: (back ++ rest) := by simpa using tails
      obtain ⟨rfl, -⟩ := split_unique ends unclosed clear
      exact absurd ⟨before, back, by simp [split]⟩ apart

/-- Such a piece is replaced behind the closed text only. -/
theorem replaceAll_append {a : List Char} (bracketed : Bracketed piece) (closed : AngleClosed a)
    (apart : ¬ piece <:+: a) (text rest : List Char) :
    replaceAll piece text (a ++ rest) = a ++ replaceAll piece text rest := by
  cases found : cut? piece (a ++ rest) with
  | none =>
    have absent := cut?_eq_none_iff.1 found
    have behind : ¬ piece <:+: rest := fun inside =>
      absent (inside.trans (List.suffix_append a rest).isInfix)
    rw [replaceAll_of_absent text absent, replaceAll_of_absent text behind]
  | some parts =>
    obtain ⟨before, after⟩ := parts
    obtain ⟨whole, leftmost⟩ := cut?_eq_some_iff.1 found
    obtain ⟨later, rfl, tail⟩ := bracketed.starts_behind closed apart whole
    have next : cut? piece rest = some (later, after) := by
      refine cut?_eq_some_iff.2 ⟨tail, fun c d other => ?_⟩
      have bound := leftmost (a ++ c) d (by rw [other]; simp)
      simp only [List.length_append] at bound
      omega
    rw [replaceAll_of_cut? text bracketed.ne_nil found, replaceAll_of_cut? text bracketed.ne_nil next]
    simp

end Bracketed

namespace Identifier

/-- An identifier that does not look like part of a tag. -/
def Plain (identifier : String) : Prop :=
  '<' ∉ identifier.toList ∧ '>' ∉ identifier.toList

/-- The letters of a placeholder in front of its identifier, without the first. -/
def head : List Char :=
  "link rel=\"x-include\" href=\"".toList

theorem toList_placeholder (identifier : String) :
    (placeholder identifier).toList = '<' :: (head ++ identifier.toList ++ ['"']) ++ ['>'] := by
  have front : "<link rel=\"x-include\" href=\"".toList = '<' :: head := by decide
  have back : "\">".toList = ['"', '>'] := by decide
  have parts : ∀ a b c : String, (a ++ b ++ c).toList = a.toList ++ (b.toList ++ c.toList) := by
    simp
  calc (placeholder identifier).toList
      = "<link rel=\"x-include\" href=\"".toList ++ (identifier.toList ++ "\">".toList) :=
        parts _ _ _
    _ = '<' :: head ++ (identifier.toList ++ ['"', '>']) :=
        congr (congrArg HAppend.hAppend front) (congrArg (identifier.toList ++ ·) back)
    _ = '<' :: (head ++ identifier.toList ++ ['"']) ++ ['>'] := by simp

private theorem not_mem_head : '<' ∉ head ∧ '>' ∉ head := by
  decide

theorem bracketed_placeholder {identifier : String} (plain : Plain identifier) :
    Bracketed (placeholder identifier).toList := by
  refine ⟨head ++ identifier.toList ++ ['"'], toList_placeholder identifier, ?_, ?_⟩
  · simp [not_mem_head.1, plain.1]
  · simp [not_mem_head.2, plain.2]

theorem placeholder_injective {one two : String} (same : placeholder one = placeholder two) :
    one = two := by
  have texts := congrArg String.toList same
  rw [toList_placeholder, toList_placeholder] at texts
  exact String.toList_injective (by simpa using texts)

end Identifier

/-- A text in which contents have taken the places of placeholders, one identifier after the other. -/
inductive Spliced : List (String × String) → List Char → List Char → Prop where
  | done (text : List Char) : Spliced [] text text
  | next {identifier content : String} {contents : List (String × String)}
      {text filled spliced : List Char}
      (replaced : Replaced ("<link rel=\"x-include\" href=\"" ++ identifier ++ "\">").toList
        content.toList text filled)
      (later : Spliced contents filled spliced) :
      Spliced ((identifier, content) :: contents) text spliced

theorem splice_eq_iff {contents : List (String × String)} {document spliced : String} :
    splice contents document = spliced ↔ Spliced contents document.toList spliced.toList := by
  have marked : ∀ identifier, (Identifier.placeholder identifier).toList ≠ [] := fun identifier => by
    rw [Identifier.toList_placeholder]
    exact List.cons_ne_nil _ _
  induction contents generalizing document with
  | nil =>
    constructor
    · rintro rfl
      exact .done _
    · intro whole
      generalize same : spliced.toList = text at whole
      cases whole
      exact String.toList_injective same.symm
  | cons entry contents ih =>
    obtain ⟨identifier, content⟩ := entry
    have step : splice ((identifier, content) :: contents) document =
        splice contents (fill identifier content document) := rfl
    rw [step]
    refine ih.trans ?_
    rw [fill, String.toList_ofList]
    constructor
    · exact .next ((replaceAll_eq_iff (marked identifier)).1 rfl)
    · rintro (_ | ⟨replaced, later⟩)
      rwa [(replaceAll_eq_iff (marked identifier)).2 replaced]

/-! ## Pieces -/

/-- A text without the placeholders of some identifiers. -/
def Unmarked (names : List String) (cs : List Char) : Prop :=
  ∀ name ∈ names, ¬ (Identifier.placeholder name).toList <:+: cs

theorem unmarked_of_not_mem {cs : List Char} (unopened : '<' ∉ cs) (names : List String) :
    Unmarked names cs := by
  intro name _ inside
  rw [Identifier.toList_placeholder] at inside
  exact unopened (inside.subset List.mem_cons_self)

/-- What a text with placeholders is made of. -/
inductive Piece where
  | literal (text : List Char)
  | marker (identifier : String)

namespace Piece

def text : Piece → List Char
  | literal text => text
  | marker identifier => (Identifier.placeholder identifier).toList

/-- A piece once a content is put in. -/
def fill (identifier content : String) : Piece → Piece
  | literal text => literal text
  | marker other => if other = identifier then literal content.toList else marker other

/-- What stands for a piece once contents are put in, of which the first for an identifier counts. -/
def filled (contents : List (String × String)) : Piece → List Char
  | literal text => text
  | marker identifier =>
    match contents.lookup identifier with
    | some content => content.toList
    | none => (Identifier.placeholder identifier).toList

/-- A piece that cannot be mixed up with the placeholders of some identifiers. -/
def Fits (names : List String) : Piece → Prop
  | literal text => AngleClosed text ∧ Unmarked names text
  | marker identifier => Identifier.Plain identifier

variable {names : List String} {pieces : List Piece} {last : List Char}
  (plain : ∀ name ∈ names, Identifier.Plain name) (free : Unmarked names last)
include plain free

/-- One content is put in for the markers of its identifier, and for nothing else. -/
theorem replaceAll_pieces {identifier : String} (member : identifier ∈ names) (content : String)
    (fits : ∀ p ∈ pieces, p.Fits names) :
    replaceAll (Identifier.placeholder identifier).toList content.toList
        (pieces.flatMap text ++ last) =
      (pieces.map (fill identifier content)).flatMap text ++ last := by
  have bracketed := Identifier.bracketed_placeholder (plain identifier member)
  induction pieces with
  | nil => exact replaceAll_of_absent _ (free identifier member)
  | cons p pieces ih =>
    have later := ih fun p inside => fits p (List.mem_cons_of_mem _ inside)
    have first := fits p List.mem_cons_self
    rw [List.flatMap_cons, List.map_cons, List.flatMap_cons, List.append_assoc, List.append_assoc,
      ← later]
    cases p with
    | literal cs => exact bracketed.replaceAll_append first.1 (first.2 identifier member) _ _
    | marker other =>
      by_cases same : other = identifier
      · subst same
        simp only [fill, if_true, text]
        exact replaceAll_append_self _ _ bracketed.ne_nil
      · have apart : ¬ (Identifier.placeholder identifier).toList <:+:
            (Identifier.placeholder other).toList := fun inside =>
          same (Identifier.placeholder_injective (String.toList_injective
            (bracketed.eq_of_inside (Identifier.bracketed_placeholder first) inside).symm))
        simp only [fill, if_neg same, text]
        exact bracketed.replaceAll_append (Identifier.bracketed_placeholder first).angleClosed apart _ _

/-- Contents put in one after the other stand where the markers of their identifiers were. -/
theorem splice_pieces (contents : List (String × String))
    (listed : ∀ entry ∈ contents, entry.1 ∈ names)
    (shown : ∀ entry ∈ contents, (literal entry.2.toList).Fits names)
    (fits : ∀ p ∈ pieces, p.Fits names) :
    splice contents (String.ofList (pieces.flatMap text ++ last)) =
      String.ofList (pieces.flatMap (filled contents) ++ last) := by
  induction contents generalizing pieces with
  | nil =>
    have same : filled [] = text := by
      funext p
      cases p <;> rfl
    rw [same]
    rfl
  | cons entry contents ih =>
    obtain ⟨identifier, content⟩ := entry
    have step := replaceAll_pieces plain free (listed _ List.mem_cons_self) content fits
    have fits' : ∀ p ∈ pieces.map (fill identifier content), p.Fits names := by
      intro p member
      obtain ⟨q, inside, rfl⟩ := List.mem_map.1 member
      cases q with
      | literal cs => exact fits _ inside
      | marker other =>
        simp only [fill]
        split
        · exact shown _ List.mem_cons_self
        · exact fits _ inside
    have later := ih (fun entry member => listed entry (List.mem_cons_of_mem _ member))
      (fun entry member => shown entry (List.mem_cons_of_mem _ member)) fits'
    have same : ∀ p : Piece, (p.fill identifier content).filled contents =
        p.filled ((identifier, content) :: contents) := by
      intro p
      cases p with
      | literal cs => rfl
      | marker other =>
        by_cases here : other = identifier
        · simp [fill, filled, here]
        · have apart : (other == identifier) = false := by simpa using here
          simp [fill, filled, here, List.lookup_cons, apart]
    rw [show splice ((identifier, content) :: contents) _ = splice contents (Transclude.fill identifier
      content _) from rfl, Transclude.fill, String.toList_ofList, step, later, List.flatMap_map]
    simp only [same]

end Piece

/-- Contents, and the pieces of a text, in none of which a placeholder can be taken for anything else. -/
structure Spliceable (contents : List (String × String)) (pieces : List Piece) : Prop where
  plain : ∀ entry ∈ contents, Identifier.Plain entry.1
  shown : ∀ entry ∈ contents, AngleClosed entry.2.toList ∧
    Unmarked (contents.map Prod.fst) entry.2.toList
  /-- Every marker stands for an identifier that has a content. -/
  marked : ∀ identifier, .marker identifier ∈ pieces → identifier ∈ contents.map Prod.fst
  unmarked : ∀ text, .literal text ∈ pieces → Unmarked (contents.map Prod.fst) text
  /-- Only at the end of the text may a `<` stand without a `>` behind it. -/
  closed : ∀ text, .literal text ∈ pieces.dropLast → AngleClosed text

/-- Where no key is there twice, the order of the entries does not matter to a search. -/
theorem lookup_eq_of_perm {α β : Type} [DecidableEq α] {as bs : List (α × β)} (perm : as.Perm bs)
    (distinct : (as.map Prod.fst).Nodup) (key : α) : as.lookup key = bs.lookup key := by
  induction perm with
  | nil => rfl
  | cons entry _ ih =>
    rw [List.lookup_cons, List.lookup_cons, ih (List.nodup_cons.1 distinct).2]
  | swap one two as =>
    have apart : one.1 ≠ two.1 := by
      rintro same
      simp [same] at distinct
    rw [List.lookup_cons, List.lookup_cons, List.lookup_cons, List.lookup_cons]
    by_cases first : key = one.1
    · subst first
      have other : (one.1 == two.1) = false := by simpa using apart
      simp [other]
    · have other : (key == one.1) = false := by simpa using first
      simp [other]
  | trans one _ ih ih' =>
    exact (ih distinct).trans (ih' ((one.map Prod.fst).nodup_iff.1 distinct))

namespace Spliceable

variable {contents other : List (String × String)} {pieces : List Piece}

theorem perm (spliceable : Spliceable contents pieces) (order : other.Perm contents) :
    Spliceable other pieces := by
  have names : ∀ {name}, name ∈ other.map Prod.fst ↔ name ∈ contents.map Prod.fst :=
    (order.map Prod.fst).mem_iff
  have unmarked : ∀ {cs}, Unmarked (contents.map Prod.fst) cs → Unmarked (other.map Prod.fst) cs :=
    fun free name member => free name (names.1 member)
  constructor
  · exact fun entry member => spliceable.plain entry (order.mem_iff.1 member)
  · exact fun entry member => (spliceable.shown entry (order.mem_iff.1 member)).imp_right unmarked
  · exact fun identifier member => names.2 (spliceable.marked identifier member)
  · exact fun text member => unmarked (spliceable.unmarked text member)
  · exact spliceable.closed

theorem fits (spliceable : Spliceable contents pieces) {p : Piece} (member : p ∈ pieces)
    (closed : ∀ text, p = .literal text → AngleClosed text) : p.Fits (contents.map Prod.fst) := by
  cases p with
  | literal text => exact ⟨closed text rfl, spliceable.unmarked text member⟩
  | marker identifier =>
    obtain ⟨entry, inside, rfl⟩ := List.mem_map.1 (spliceable.marked identifier member)
    exact spliceable.plain entry inside

/-- The text is made of pieces that fit, and ends with a text without placeholders. -/
theorem exists_front (spliceable : Spliceable contents pieces) :
    ∃ (front : List Piece) (last : List Char), (∀ p ∈ front, p.Fits (contents.map Prod.fst)) ∧
      Unmarked (contents.map Prod.fst) last ∧
      ∀ view : Piece → List Char, (∀ text, view (.literal text) = text) →
        pieces.flatMap view = front.flatMap view ++ last := by
  have nothing : Unmarked (contents.map Prod.fst) [] := unmarked_of_not_mem List.not_mem_nil _
  rcases List.eq_nil_or_concat' pieces with rfl | ⟨front, last, rfl⟩
  · exact ⟨[], [], by simp, nothing, by simp⟩
  · have inner : ∀ p ∈ front, p.Fits (contents.map Prod.fst) := by
      intro p member
      refine spliceable.fits (List.mem_append_left _ member) ?_
      rintro text rfl
      exact spliceable.closed text (by simpa using member)
    cases last with
    | literal text =>
      refine ⟨front, text, inner, spliceable.unmarked text (by simp), ?_⟩
      intro view plain
      simp [plain]
    | marker identifier =>
      refine ⟨front ++ [.marker identifier], [], ?_, nothing, by simp⟩
      intro p member
      rcases List.mem_append.1 member with inside | ends
      · exact inner p inside
      · obtain rfl := List.mem_singleton.1 ends
        exact spliceable.fits (by simp) (by simp)

theorem splice_text (spliceable : Spliceable contents pieces) :
    splice contents (String.ofList (pieces.flatMap Piece.text)) =
      String.ofList (pieces.flatMap (Piece.filled contents)) := by
  obtain ⟨front, last, fits, free, parted⟩ := spliceable.exists_front
  have plain : ∀ name ∈ contents.map Prod.fst, Identifier.Plain name := by
    intro name member
    obtain ⟨entry, inside, rfl⟩ := List.mem_map.1 member
    exact spliceable.plain entry inside
  rw [parted Piece.text fun _ => rfl, parted (Piece.filled contents) fun _ => rfl]
  exact Piece.splice_pieces plain free contents (fun entry => List.mem_map_of_mem)
    spliceable.shown fits

end Spliceable

/-- Contents that are put in one after the other stand at once in the places of their placeholders, and
nothing else changes; the content that comes first counts. The order of contents for different
identifiers does not matter. -/
theorem splice_eq_filled {contents : List (String × String)} {pieces : List Piece}
    (spliceable : Spliceable contents pieces) :
    splice contents (String.ofList (pieces.flatMap Piece.text)) =
      String.ofList (pieces.flatMap (Piece.filled contents)) ∧
    ((contents.map Prod.fst).Nodup → ∀ other : List (String × String), other.Perm contents →
      splice other (String.ofList (pieces.flatMap Piece.text)) =
        splice contents (String.ofList (pieces.flatMap Piece.text))) := by
  refine ⟨spliceable.splice_text, fun distinct other order => ?_⟩
  have same : Piece.filled other = Piece.filled contents := by
    funext p
    cases p with
    | literal text => rfl
    | marker identifier =>
      have distinct' : (other.map Prod.fst).Nodup := (order.map Prod.fst).nodup_iff.2 distinct
      simp only [Piece.filled, lookup_eq_of_perm order distinct' identifier]
  rw [(spliceable.perm order).splice_text, spliceable.splice_text, same]

/-- Two contents, one of them empty, on a text that breaks off in a tag. -/
theorem splice_eq_filled_two :
    let contents := [("a", "<i>x</i>"), ("b", "")]
    let pieces : List Piece :=
      [.literal "<p>".toList, .marker "b", .marker "a", .marker "a", .literal "<p".toList]
    Spliceable contents pieces ∧
      splice contents (String.ofList (pieces.flatMap Piece.text)) = "<p><i>x</i><i>x</i><p" ∧
      splice contents.reverse (String.ofList (pieces.flatMap Piece.text)) =
        "<p><i>x</i><i>x</i><p" := by
  intro contents pieces
  have short : ∀ cs : List Char, cs.length < 31 → Unmarked (contents.map Prod.fst) cs := by
    intro cs bound name member inside
    have fits := inside.length_le
    rw [Identifier.toList_placeholder] at fits
    rcases (by simpa [contents] using member : name = "a" ∨ name = "b") with rfl | rfl <;>
      exact absurd (Nat.lt_of_le_of_lt fits bound) (by decide)
  have spliceable : Spliceable contents pieces := by
    constructor
    · intro entry member
      rcases (by simpa [contents] using member : entry = ("a", "<i>x</i>") ∨ entry = ("b", "")) with
        rfl | rfl
      · exact ⟨by decide, by decide⟩
      · exact ⟨by decide, by decide⟩
    · intro entry member
      rcases (by simpa [contents] using member : entry = ("a", "<i>x</i>") ∨ entry = ("b", "")) with
        rfl | rfl
      · exact ⟨angleClosed_of_ends "<i>x</i".toList, short _ (by decide)⟩
      · exact ⟨angleClosed_of_not_mem (by decide), short _ (by decide)⟩
    · simp [contents, pieces]
    · intro text member
      rcases (by simpa [pieces] using member : text = ['<', 'p', '>'] ∨ text = ['<', 'p']) with
        rfl | rfl
      · exact short _ (by decide)
      · exact short _ (by decide)
    · intro text member
      obtain rfl : text = ['<', 'p', '>'] := by simpa [pieces] using member
      exact angleClosed_of_ends ['<', 'p']
  obtain ⟨once, reordered⟩ := splice_eq_filled spliceable
  have text : String.ofList (pieces.flatMap (Piece.filled contents)) = "<p><i>x</i><i>x</i><p" := by
    decide
  exact ⟨spliceable, once.trans text,
    (reordered (by decide) _ (List.reverse_perm _)).trans (once.trans text)⟩

end Transclude
