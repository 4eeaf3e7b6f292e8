import Transclude.Proofs.Page.Contract
import Transclude.Proofs.Page.Splice

/-!
# Texts put one behind the other

Neither an opening nor a tag reaches over the end of a text in which every `<` is followed by a `>`. What
stands behind such a text is therefore worked in as if it stood alone, and `parse_append` says what the
two pages come to together, for texts that end with `>`.
-/

namespace Transclude

open Transclude.Text

/-- A text that is empty or ends with `>`. -/
def Sealed (cs : List Char) : Prop :=
  cs = [] ∨ ∃ front, cs = front ++ ['>']

theorem Sealed.angleClosed {cs : List Char} (closed : Sealed cs) : AngleClosed cs := by
  rcases closed with rfl | ⟨front, rfl⟩
  · exact angleClosed_of_not_mem List.not_mem_nil
  · exact angleClosed_of_ends front

namespace AngleClosed

variable {front text more a b : List Char} {name : String}

theorem of_append (closed : AngleClosed (front ++ text)) : AngleClosed text := by
  rintro a b rfl
  exact closed (front ++ a) b (by simp)

/-- An opening without a `>` stands in a closed text or behind it, and not across its end. -/
theorem opening_apart (closed : AngleClosed text) (free : '>' ∉ opening name)
    (whole : text ++ more = a ++ opening name ++ b) :
    (∃ c, text = a ++ opening name ++ c ∧ b = c ++ more) ∨
      ∃ c, a = text ++ c ∧ more = c ++ opening name ++ b := by
  rw [List.append_assoc] at whole
  rcases List.append_eq_append_iff.1 whole with ⟨c, behind, tail⟩ | ⟨c, split, tail⟩
  · exact .inr ⟨c, behind, by rw [tail, List.append_assoc c]⟩
  · rcases List.append_eq_append_iff.1 tail with ⟨d, inside, ends⟩ | ⟨d, crossing, ends⟩
    · exact .inl ⟨d, by rw [split, inside, List.append_assoc a], ends⟩
    · cases c with
      | nil => exact .inr ⟨[], by simpa using split.symm, by simpa using tail.symm⟩
      | cons c cs =>
        -- The opening would hold the `>` that follows its `<` in the closed text.
        have starts : c = '<' := by
          rw [opening, List.cons_append, List.cons_append] at crossing
          exact (List.cons.inj crossing).1.symm
        have followed := closed a cs (starts ▸ split)
        exact absurd (by simp [crossing, followed]) free

end AngleClosed

theorem not_mem_opening {name : String} (free : '>' ∉ name.toList) : '>' ∉ opening name := by
  simp [opening, free]

section
variable {names : List String} (free : ∀ name ∈ names, '>' ∉ name.toList)
  {text more before rest : List Char} {name : String}
include free

/-- A first tag stays the first one whatever stands behind the text. -/
theorem Opens.append (closed : AngleClosed text) (opens : Opens names text before name rest)
    (more : List Char) : Opens names (text ++ more) before name (rest ++ more) where
  whole := by rw [opens.whole]; simp
  leftmost := by
    intro other member nonempty a b occurs
    rcases closed.opening_apart (not_mem_opening (free other member)) occurs with
      ⟨c, inside, -⟩ | ⟨c, rfl, -⟩
    · exact opens.leftmost other member nonempty a c inside
    · have longer := congrArg List.length opens.whole
      simp only [List.length_append] at longer ⊢
      omega
  listed := by
    obtain ⟨earlier, later, split, nonempty, first⟩ := opens.listed
    refine ⟨earlier, later, split, nonempty, ?_⟩
    rintro other member proper ⟨b, starts⟩
    have occurs : text ++ more = before ++ opening other ++ b := by
      rw [opens.whole, List.append_assoc before (opening other), starts]
      simp
    have listed : other ∈ names := by simp [split, member]
    rcases closed.opening_apart (not_mem_opening (free other listed)) occurs with
      ⟨c, inside, -⟩ | ⟨c, early, -⟩
    · refine first other member proper ⟨c, ?_⟩
      rw [opens.whole, List.append_assoc, List.append_assoc] at inside
      exact (List.append_cancel_left inside).symm
    · have longer := congrArg List.length opens.whole
      have opened : 0 < (opening name).length := by simp [opening]
      have bound := congrArg List.length early
      simp only [List.length_append] at longer bound
      omega

/-- In front of a first tag there may stand a closed text without tags. -/
theorem Opens.behind (closed : AngleClosed text) (unopened : Unopened names text)
    (opens : Opens names more before name rest) :
    Opens names (text ++ more) (text ++ before) name rest where
  whole := by rw [opens.whole]; simp
  leftmost := by
    intro other member nonempty a b occurs
    rcases closed.opening_apart (not_mem_opening (free other member)) occurs with
      ⟨c, inside, -⟩ | ⟨c, rfl, there⟩
    · exact absurd ⟨a, c, inside.symm⟩ (unopened other member nonempty)
    · have bound := opens.leftmost other member nonempty c b there
      simp only [List.length_append]
      omega
  listed := opens.listed

/-- A tag that is the first one of a text is the first one wherever it starts a text. -/
theorem Opens.alone {attributes after : List Char}
    (opens : Opens names text before name (attributes ++ '>' :: after)) (more : List Char) :
    Opens names (tagText name attributes ++ more) [] name (attributes ++ '>' :: more) where
  whole := by simp [tagText]
  leftmost _ _ _ _ _ _ := Nat.zero_le _
  listed := by
    obtain ⟨earlier, later, split, nonempty, first⟩ := opens.listed
    refine ⟨earlier, later, split, nonempty, ?_⟩
    rintro other member proper ⟨b, starts⟩
    have closed : AngleClosed (tagText name attributes) := angleClosed_of_ends _
    have listed : other ∈ names := by simp [split, member]
    have whole : tagText name attributes ++ more = [] ++ opening other ++ b := by
      rw [List.nil_append, starts]
      simp [tagText]
    rcases closed.opening_apart (not_mem_opening (free other listed)) whole with
      ⟨c, inside, -⟩ | ⟨c, nothing, -⟩
    · refine first other member proper ⟨c ++ after, ?_⟩
      rw [← List.append_assoc, ← List.nil_append (opening other), ← inside]
      simp [tagText]
    · simp [tagText] at nothing

theorem Unopened.append (closed : AngleClosed text) (one : Unopened names text)
    (two : Unopened names more) : Unopened names (text ++ more) := by
  rintro other member nonempty ⟨a, b, occurs⟩
  rcases closed.opening_apart (not_mem_opening (free other member)) occurs.symm with
    ⟨c, inside, -⟩ | ⟨c, -, there⟩
  · exact one other member nonempty ⟨a, c, inside.symm⟩
  · exact two other member nonempty ⟨c, b, there.symm⟩

end

namespace Pass

/-- The rounds of a pass and its end, with a text in front that holds no tag. -/
def behind (front : List Char) : List Round → Stop → List Round × Stop
  | r :: rounds, stop => ({ r with before := front ++ r.before } :: rounds, stop)
  | [], .rest text => ([], .rest (front ++ text))
  | [], .unterminated before => ([], .unterminated (front ++ before))
  | [], .failed error => ([], .failed error)

section
variable {o : Options} {hooks : PassHooks} (free : ∀ name ∈ o.directiveTag, '>' ∉ name.toList)
  {text more : List Char} {rounds rounds' : List Round} {stop stop' : Stop}
include free

theorem of_behind (closed : AngleClosed text) (unopened : Unopened o.directiveTag text)
    (pass : Pass o hooks more rounds stop) :
    Pass o hooks (text ++ more) (behind text rounds stop).1 (behind text rounds stop).2 := by
  cases pass with
  | clear later => exact .clear (unopened.append free closed later)
  | lenient opens endless mode => exact .lenient (opens.behind free closed unopened) endless mode
  | strict opens endless mode => exact .strict (opens.behind free closed unopened) endless mode
  | failed opens inside answer => exact .failed (opens.behind free closed unopened) inside answer
  | round opens inside answer later =>
    exact .round (opens.behind free closed unopened) inside answer later

/-- The pass over a sealed text goes on with the pass over the text behind it, unless the rule for tags
fails. No tag of a sealed text is without an end. -/
theorem append (closed : Sealed text) (pass : Pass o hooks text rounds stop)
    (later : Pass o hooks more rounds' stop') :
    match stop with
    | .rest rest => Pass o hooks (text ++ more) (rounds ++ (behind rest rounds' stop').1)
        (behind rest rounds' stop').2
    | .failed error => Pass o hooks (text ++ more) rounds (.failed error)
    | .unterminated _ => False := by
  replace closed := closed.angleClosed
  have ended : ∀ {text before rest : List Char} {name : String}, AngleClosed text →
      Opens o.directiveTag text before name rest → '>' ∈ rest := by
    intro text before rest name closed opens
    have followed := closed before (name.toList ++ ' ' :: rest) (by simp [opens.whole, opening])
    simpa [free name opens.mem] using followed
  -- What a round leaves unread is closed like the text it is the end of.
  induction pass with
  | clear unopened => exact of_behind free closed unopened later
  | lenient opens endless | strict opens endless => exact absurd (ended closed opens) endless
  | failed opens inside answer =>
    exact .failed (by simpa using opens.append free closed more) inside answer
  | @round text before attributes after name rewrite rounds stop opens inside answer _ ih =>
    have shorter : AngleClosed after := by
      have closed' : AngleClosed ((before ++ opening name ++ attributes ++ ['>']) ++ after) := by
        simpa [opens.whole] using closed
      exact closed'.of_append
    have here : Opens o.directiveTag (text ++ more) before name (attributes ++ '>' :: (after ++ more)) := by
      simpa using opens.append free closed more
    have further := ih shorter
    cases stop with
    | rest rest => exact .round here inside answer further
    | failed error => exact .round here inside answer further
    | unterminated => exact further

end

end Pass

/-- Two pages as one. What the first one loads or includes is not listed again for the second. -/
def Page.append (p q : Page) : Page where
  resource := p.resource ++ q.resource
  dependencies :=
    { items := p.dependencies.items ++
        q.dependencies.items.filter fun identifier => identifier ∉ p.dependencies.items
      nodup := by
        have first := p.dependencies.nodup
        have second := q.dependencies.nodup
        rw [← List.map_id p.dependencies.items] at first
        rw [← List.map_id q.dependencies.items] at second
        simpa only [List.map_id, id] using nodup_map_append_filter first second
      nonempty := by simp [p.dependencies.nonempty, q.dependencies.nonempty] }
  inclusions :=
    let entries := p.entries ++ q.entries.filter fun i => i.name ∉ p.entries.map Inclusion.name
    if entries = [] then none
    else some ⟨entries, nodup_map_append_filter p.distinct_entries q.distinct_entries⟩

/-- An error of a text that stands behind others, which take this many bytes. -/
def ResolveError.shifted (bytes : Nat) : ResolveError → ResolveError
  | .unterminatedTag position => .unterminatedTag (bytes + position)
  | error => error

namespace Pass

/-- A page has a list of inclusions exactly if it has inclusions. -/
theorem inclusions_page (rounds : List Round) (rest : List Char) :
    (page rounds rest).inclusions.map Inclusions.entries =
      if (page rounds rest).entries = [] then none else some (page rounds rest).entries := by
  rw [entries_page]
  simp only [firsts_eq_nil_iff, page]
  split <;> rfl

/-- Rounds behind others list what they ask for and include as a page of their own does, less what the
others list. -/
theorem page_append {earlier later later' : List Round} {front rest rest' : List Char}
    (asks : asked later' = asked later) (includes : included later' = included later)
    (writes : written later' ++ rest' = front ++ (written later ++ rest)) :
    page (earlier ++ later') rest' = (page earlier front).append (page later rest) := by
  have text : (page (earlier ++ later') rest').resource =
      (page earlier front).resource ++ (page later rest).resource := by
    simp only [page, ← String.ofList_append, written_append, List.append_assoc, writes]
  have lists : (page (earlier ++ later') rest').dependencies.items =
      (page earlier front).dependencies.items ++ (page later rest).dependencies.items.filter
        fun identifier => identifier ∉ (page earlier front).dependencies.items := by
    have known : ∀ identifier : String, identifier ∈ firsts id ((asked earlier).filter (· ≠ "")) ↔
        identifier ∈ ((asked earlier).filter (· ≠ "")).map id := fun identifier => by
      rw [← mem_map_firsts_iff, List.map_id]
    simp only [page, asked_append, asks, List.filter_append, firsts_append, known, id]
  have entries : (page (earlier ++ later') rest').entries =
      (page earlier front).entries ++ (page later rest).entries.filter
        fun i => i.name ∉ (page earlier front).entries.map Inclusion.name := by
    simp only [entries_page, included_append, includes, firsts_append, mem_map_firsts_iff]
  refine Page.eq_of_lists text lists ?_
  rw [inclusions_page, entries, Page.append]
  dsimp only
  split <;> rfl

theorem outcome_append {earlier later : List Round} {front : List Char} {stop : Stop}
    (ends : ∀ position, stop ≠ .failed (.unterminatedTag position)) :
    outcome (earlier ++ (behind front later stop).1) (behind front later stop).2 =
      match outcome later stop with
      | .error error => .error (error.shifted (size (written earlier ++ front)))
      | .ok page' => .ok ((page earlier front).append page') := by
  cases stop with
  | rest rest =>
    cases later with
    | nil => exact congrArg Except.ok (page_append rfl rfl (by simp [behind]))
    | cons r later => exact congrArg Except.ok (page_append rfl rfl (by simp [behind]))
  | unterminated before =>
    cases later <;> simp [behind, outcome, ResolveError.shifted, Nat.add_assoc]
  | failed error =>
    have same : ∀ bytes, error.shifted bytes = error := by
      intro bytes
      cases error with
      | unterminatedTag position => exact absurd rfl (ends position)
      | _ => rfl
    cases later <;> simp [behind, outcome, same]

end Pass

/-- Parsing a text that is empty or ends with `>`, with another text behind it, comes to parsing the
two and putting the pages one behind the other. -/
theorem parse_append (o : Options) (hooks : PassHooks) (text more : String)
    (free : ∀ name ∈ o.directiveTag, '>' ∉ name.toList)
    (ends : hooks.searching.NeverUnterminated o more.toList)
    (closed : text = "" ∨ ∃ front, text = front ++ ">") :
    parse o hooks.searching (text ++ more) =
      match parse o hooks.searching text with
      | .error error => .error error
      | .ok page =>
        match parse o hooks.searching more with
        | .error error => .error (error.shifted (size page.resource.toList))
        | .ok page' => .ok (page.append page') := by
  have closed' : Sealed text.toList := by
    rcases closed with rfl | ⟨front, rfl⟩
    · exact .inl rfl
    · exact .inr ⟨front.toList, by simp⟩
  obtain ⟨rounds, stop, pass⟩ := Pass.exists_pass o hooks.searching text.toList
  obtain ⟨rounds', stop', pass'⟩ := Pass.exists_pass o hooks.searching more.toList
  have both := pass.append free closed' pass'
  rw [parse_of_pass hooks.findTag_searching pass, parse_of_pass hooks.findTag_searching pass']
  cases stop with
  | unterminated before => exact both.elim
  | failed error =>
    rw [← String.toList_append] at both
    rw [parse_of_pass hooks.findTag_searching both]
    rfl
  | rest rest =>
    have own : ∀ position, stop' ≠ .failed (.unterminatedTag position) := by
      rintro position rfl
      obtain ⟨tag, attributes, handed, answer⟩ := pass'.exists_handed
      exact ends tag attributes handed position answer
    rw [← String.toList_append] at both
    rw [parse_of_pass hooks.findTag_searching both, Pass.outcome_append own]
    simp only [Pass.outcome, Pass.page, String.toList_ofList]

/-- A rule that includes one document for every tag, on a text with two tags and on one that is cut off. -/
theorem parse_append_including :
    let hooks : PassHooks :=
      { Hooks.builtin.toPassHooks with processTag := fun _ _ _ _ => .ok (.included "a" none) }
    let strict : Options := { Options.builtin with strict := true }
    parse strict hooks.searching ("<link x>" ++ "y<x-link z>") =
      .ok ⟨Identifier.placeholder "a" ++ "y" ++ Identifier.placeholder "a", .ofList ["a"],
        some (.ofList [⟨"a", none⟩])⟩ ∧
    parse strict hooks.searching ("<link x>" ++ "y<x-link z") =
      .error (.unterminatedTag (size (Identifier.placeholder "a").toList + 1)) := by
  intro hooks strict
  have free : ∀ name ∈ strict.directiveTag, '>' ∉ name.toList := by decide
  have ends : ∀ more, hooks.searching.NeverUnterminated strict more := by
    intro more tag attributes _ position refused
    cases refused
  have closed : "<link x>" = "" ∨ ∃ front, "<link x>" = front ++ ">" := .inr ⟨"<link x", by decide⟩
  have first : parse strict hooks.searching "<link x>" =
      .ok ⟨Identifier.placeholder "a", .ofList ["a"], some (.ofList [⟨"a", none⟩])⟩ := rfl
  constructor
  · have second : parse strict hooks.searching "y<x-link z>" =
        .ok ⟨"y" ++ Identifier.placeholder "a", .ofList ["a"], some (.ofList [⟨"a", none⟩])⟩ := rfl
    rw [parse_append strict hooks _ _ free (ends _) closed, first, second]
    rfl
  · have second : parse strict hooks.searching "y<x-link z" = .error (.unterminatedTag 1) := rfl
    rw [parse_append strict hooks _ _ free (ends _) closed, first, second]
    rfl

end Transclude
