import Transclude.Page.Parse
import Transclude.Proofs.Page.Firsts
import Transclude.Proofs.Page.Opening

/-!
# The pass over a page, on the text as it was given

`Pass` reads a text from left to right without ever editing it: a round ends behind a tag, and what is
left to read is always an unchanged end of the text. `parse_eq_iff` says that editing the text in
place under a cursor comes to the same page or the same error.
-/

namespace Transclude

open Transclude.Text

/-- One round of the pass: the text in front of a tag, the tag, the part of it that holds the
attributes, and what becomes of the tag. -/
structure Round where
  before : List Char
  tag : List Char
  attributes : List Char
  rewrite : Rewrite

inductive Stop where
  /-- The rest of the text stays as it is. -/
  | rest (text : List Char)
  /-- A tag, opened behind some text, has no end. -/
  | unterminated (before : List Char)
  /-- The rule for tags failed. -/
  | failed (error : ResolveError)

def tagText (name : String) (attributes : List Char) : List Char :=
  opening name ++ attributes ++ ['>']

/-- What the rule for tags makes of a tag. -/
def PassHooks.answer (hooks : PassHooks) (o : Options) (tag attributes : List Char) :
    Except ResolveError Rewrite :=
  hooks.processTag o hooks.toTagHooks (String.ofList tag)
    (Attributes.parse (String.ofList attributes))

/-- The rounds of a pass over an unread text, and how it ends. -/
inductive Pass (o : Options) (hooks : PassHooks) : List Char → List Round → Stop → Prop where
  | clear {text : List Char} (unopened : Unopened o.directiveTag text) :
      Pass o hooks text [] (.rest text)
  | lenient {text before rest : List Char} {name : String}
      (opens : Opens o.directiveTag text before name rest) (endless : '>' ∉ rest)
      (mode : o.strict = false) : Pass o hooks text [] (.rest text)
  | strict {text before rest : List Char} {name : String}
      (opens : Opens o.directiveTag text before name rest) (endless : '>' ∉ rest)
      (mode : o.strict = true) : Pass o hooks text [] (.unterminated before)
  | failed {text before attributes after : List Char} {name : String} {error : ResolveError}
      (opens : Opens o.directiveTag text before name (attributes ++ '>' :: after))
      (inside : '>' ∉ attributes)
      (answer : hooks.answer o (tagText name attributes) attributes = .error error) :
      Pass o hooks text [] (.failed error)
  | round {text before attributes after : List Char} {name : String} {rewrite : Rewrite}
      {rounds : List Round} {stop : Stop}
      (opens : Opens o.directiveTag text before name (attributes ++ '>' :: after))
      (inside : '>' ∉ attributes)
      (answer : hooks.answer o (tagText name attributes) attributes = .ok rewrite)
      (later : Pass o hooks after rounds stop) :
      Pass o hooks text (⟨before, tagText name attributes, attributes, rewrite⟩ :: rounds) stop

/-- The tags of a text that the rule for tags is given, each with the text of its attributes. -/
inductive Handed (o : Options) (hooks : PassHooks) :
    List Char → List Char → List Char → Prop where
  | first {text before attributes after : List Char} {name : String}
      (opens : Opens o.directiveTag text before name (attributes ++ '>' :: after))
      (inside : '>' ∉ attributes) : Handed o hooks text (tagText name attributes) attributes
  | later {text before attributes after tag' attributes' : List Char} {name : String}
      {rewrite : Rewrite} (opens : Opens o.directiveTag text before name (attributes ++ '>' :: after))
      (inside : '>' ∉ attributes)
      (answer : hooks.answer o (tagText name attributes) attributes = .ok rewrite)
      (further : Handed o hooks after tag' attributes') : Handed o hooks text tag' attributes'

/-- The rule for tags does not itself say of a tag that the tag has no end. -/
def PassHooks.NeverUnterminated (hooks : PassHooks) (o : Options) (text : List Char) : Prop :=
  ∀ tag attributes, Handed o hooks text tag attributes → ∀ position,
    hooks.answer o tag attributes ≠ .error (.unterminatedTag position)

namespace Pass

/-- The text that rounds leave behind. -/
def written (rounds : List Round) : List Char :=
  rounds.flatMap fun r => r.before ++ r.rewrite.text.toList

/-- The identifiers that rounds ask for, with repeats and empty ones. -/
def asked (rounds : List Round) : List String :=
  rounds.flatMap (·.rewrite.dependencies)

/-- The inclusions that rounds name, with repeats. -/
def included (rounds : List Round) : List Inclusion :=
  rounds.flatMap (·.rewrite.inclusion.toList)

/-- The page of a text that is read to its end. -/
def page (rounds : List Round) (rest : List Char) : Page where
  resource := String.ofList (written rounds ++ rest)
  dependencies :=
    { items := firsts id ((asked rounds).filter (· ≠ ""))
      nodup := by simpa using nodup_map_firsts id ((asked rounds).filter (· ≠ ""))
      nonempty := fun member => by simpa using (List.mem_filter.1 (mem_of_mem_firsts member)).2 }
  inclusions :=
    if included rounds = [] then none
    else some ⟨firsts Inclusion.name (included rounds), nodup_map_firsts _ _⟩

/-- What a pass comes to. The place of a tag without an end counts from the start of what is written. -/
def outcome (rounds : List Round) : Stop → Except ResolveError Page
  | .rest text => .ok (page rounds text)
  | .unterminated before => .error (.unterminatedTag (size (written rounds) + size before))
  | .failed error => .error error

@[simp] theorem written_nil : written [] = [] := rfl

@[simp] theorem written_cons (r : Round) (rounds : List Round) :
    written (r :: rounds) = r.before ++ r.rewrite.text.toList ++ written rounds := rfl

@[simp] theorem written_append (earlier later : List Round) :
    written (earlier ++ later) = written earlier ++ written later := List.flatMap_append

@[simp] theorem asked_nil : asked [] = [] := rfl

@[simp] theorem asked_cons (r : Round) (rounds : List Round) :
    asked (r :: rounds) = r.rewrite.dependencies ++ asked rounds := rfl

@[simp] theorem asked_append (earlier later : List Round) :
    asked (earlier ++ later) = asked earlier ++ asked later := List.flatMap_append

@[simp] theorem included_nil : included [] = [] := rfl

@[simp] theorem included_cons (r : Round) (rounds : List Round) :
    included (r :: rounds) = r.rewrite.inclusion.toList ++ included rounds := rfl

@[simp] theorem included_append (earlier later : List Round) :
    included (earlier ++ later) = included earlier ++ included later := List.flatMap_append

/-- What becomes of a tag is what the rule for tags answers, and a tag ends with its first `>`. -/
theorem of_mem {o : Options} {hooks : PassHooks} {text : List Char} {rounds : List Round}
    {stop : Stop} (pass : Pass o hooks text rounds stop) {r : Round} (member : r ∈ rounds) :
    hooks.answer o r.tag r.attributes = .ok r.rewrite ∧ '>' ∉ r.attributes ∧
      ∃ name, r.tag = tagText name r.attributes := by
  induction pass with
  | round opens inside answer later ih =>
    rcases List.mem_cons.1 member with rfl | member
    · exact ⟨answer, inside, _, rfl⟩
    · exact ih member
  | _ => cases member

theorem rest_suffix {o : Options} {hooks : PassHooks} {text rest : List Char} {rounds : List Round}
    (pass : Pass o hooks text rounds (.rest rest)) : rest <:+ text := by
  generalize ended : Stop.rest rest = stop at pass
  induction pass with
  | clear | lenient =>
    cases ended
    exact List.suffix_refl _
  | strict | failed => cases ended
  | @round text before attributes after name _ _ _ opens _ _ _ ih =>
    refine (ih ended).trans ⟨before ++ opening name ++ attributes ++ ['>'], ?_⟩
    simp [opens.whole]

/-- A failing pass fails with what the rule for tags says of a tag that it is given. -/
theorem exists_handed {o : Options} {hooks : PassHooks} {text : List Char} {rounds : List Round}
    {error : ResolveError} (pass : Pass o hooks text rounds (.failed error)) :
    ∃ tag attributes, Handed o hooks text tag attributes ∧
      hooks.answer o tag attributes = .error error := by
  generalize ended : Stop.failed error = stop at pass
  induction pass with
  | clear | lenient | strict => cases ended
  | failed opens inside answer =>
    cases ended
    exact ⟨_, _, .first opens inside, answer⟩
  | round opens inside answer later ih =>
    obtain ⟨tag, attributes, handed, refuses⟩ := ih ended
    exact ⟨tag, attributes, .later opens inside answer handed, refuses⟩

section
variable {o : Options} {hooks : PassHooks} {text before attributes after rest : List Char}
  {name : String} {rounds : List Round} {stop : Stop}

theorem iff_of_unopened (unopened : Unopened o.directiveTag text) :
    Pass o hooks text rounds stop ↔ rounds = [] ∧ stop = .rest text := by
  constructor
  · intro pass
    cases pass with
    | clear => exact ⟨rfl, rfl⟩
    | lenient opens | strict opens | failed opens | round opens =>
      exact absurd unopened opens.not_unopened
  · rintro ⟨rfl, rfl⟩
    exact .clear unopened

theorem iff_of_endless (opens : Opens o.directiveTag text before name rest) (endless : '>' ∉ rest) :
    Pass o hooks text rounds stop ↔
      rounds = [] ∧ stop = if o.strict then .unterminated before else .rest text := by
  constructor
  · intro pass
    cases pass with
    | clear unopened => exact absurd unopened opens.not_unopened
    | lenient _ _ mode => simp [mode]
    | strict other _ mode =>
      obtain ⟨rfl, -, -⟩ := opens.unique other
      simp [mode]
    | failed other | round other =>
      obtain ⟨-, -, rfl⟩ := opens.unique other
      simp at endless
  · rintro ⟨rfl, rfl⟩
    cases mode : o.strict with
    | false => exact .lenient opens endless mode
    | true => exact .strict opens endless mode

theorem iff_of_closed (opens : Opens o.directiveTag text before name (attributes ++ '>' :: after))
    (inside : '>' ∉ attributes) :
    Pass o hooks text rounds stop ↔
      match hooks.answer o (tagText name attributes) attributes with
      | .error error => rounds = [] ∧ stop = .failed error
      | .ok rewrite => ∃ later, rounds = ⟨before, tagText name attributes, attributes, rewrite⟩ :: later ∧
          Pass o hooks after later stop := by
  constructor
  · intro pass
    cases pass with
    | clear unopened => exact absurd unopened opens.not_unopened
    | lenient other endless | strict other endless =>
      obtain ⟨-, -, rfl⟩ := opens.unique other
      simp at endless
    | failed other inside' answer =>
      obtain ⟨rfl, rfl, same⟩ := opens.unique other
      obtain ⟨rfl, rfl⟩ := split_unique same inside inside'
      simp [answer]
    | round other inside' answer later =>
      obtain ⟨rfl, rfl, same⟩ := opens.unique other
      obtain ⟨rfl, rfl⟩ := split_unique same inside inside'
      simp [answer, later]
  · intro start
    cases answer : hooks.answer o (tagText name attributes) attributes with
    | error error =>
      rw [answer] at start
      obtain ⟨rfl, rfl⟩ := start
      exact .failed opens inside answer
    | ok rewrite =>
      rw [answer] at start
      obtain ⟨later, rfl, pass⟩ := start
      exact .round opens inside answer pass

theorem unique {rounds' : List Round} {stop' : Stop} (pass : Pass o hooks text rounds stop)
    (pass' : Pass o hooks text rounds' stop') : rounds' = rounds ∧ stop' = stop := by
  induction pass generalizing rounds' with
  | clear unopened => exact (iff_of_unopened unopened).1 pass'
  | lenient opens endless mode => simpa [mode] using (iff_of_endless opens endless).1 pass'
  | strict opens endless mode => simpa [mode] using (iff_of_endless opens endless).1 pass'
  | failed opens inside answer => simpa [answer] using (iff_of_closed opens inside).1 pass'
  | round opens inside answer later ih =>
    have start := (iff_of_closed opens inside).1 pass'
    rw [answer] at start
    obtain ⟨later', rfl, further⟩ := start
    obtain ⟨rfl, rfl⟩ := ih further
    exact ⟨rfl, rfl⟩

/-- The rule for tags is given the tags of the rounds, if the text is read to its end. -/
theorem handed_iff (pass : Pass o hooks text rounds (.rest rest)) {tag inner : List Char} :
    Handed o hooks text tag inner ↔ ∃ r ∈ rounds, r.tag = tag ∧ r.attributes = inner := by
  constructor
  · intro handed
    induction handed generalizing rounds with
    | first opens inside =>
      have start := (iff_of_closed opens inside).1 pass
      split at start
      · cases start.2
      · obtain ⟨later, rfl, -⟩ := start
        exact ⟨_, List.mem_cons_self, rfl, rfl⟩
    | later opens inside answer further ih =>
      have start := (iff_of_closed opens inside).1 pass
      rw [answer] at start
      obtain ⟨later, rfl, pass'⟩ := start
      obtain ⟨r, member, same⟩ := ih pass'
      exact ⟨r, List.mem_cons_of_mem _ member, same⟩
  · rintro ⟨r, member, rfl, rfl⟩
    generalize Stop.rest rest = stop at pass
    induction pass with
    | round opens inside answer later ih =>
      rcases List.mem_cons.1 member with rfl | member
      · exact .first opens inside
      · exact .later opens inside answer (ih member)
    | _ => cases member

end

theorem exists_pass (o : Options) (hooks : PassHooks) (text : List Char) :
    ∃ rounds stop, Pass o hooks text rounds stop := by
  induction sized : text.length using Nat.strongRecOn generalizing text with
  | _ n ih =>
    cases search : findTag o.directiveTag (String.ofList ([] ++ text)) (size []) with
    | none => exact ⟨[], _, .clear (findTag_eq_none_iff.1 search)⟩
    | some found =>
      obtain ⟨before, rest, opens, -, -⟩ := findTag_eq_some_iff.1 search
      cases split : splitOnce? '>' rest with
      | none =>
        have endless := splitOnce?_eq_none_iff.1 split
        cases mode : o.strict with
        | false => exact ⟨[], _, .lenient opens endless mode⟩
        | true => exact ⟨[], _, .strict opens endless mode⟩
      | some parts =>
        obtain ⟨attributes, after⟩ := parts
        obtain ⟨rfl, inside⟩ := splitOnce?_eq_some_iff.1 split
        cases answer : hooks.answer o (tagText found.name attributes) attributes with
        | error error => exact ⟨[], _, .failed opens inside answer⟩
        | ok rewrite =>
          have shorter : after.length < n := by
            rw [← sized, opens.whole]
            simp only [List.length_append, List.length_cons]
            omega
          obtain ⟨rounds, stop, later⟩ := ih _ shorter after rfl
          exact ⟨_, stop, .round opens inside answer later⟩

end Pass

/-! ## Steps of the cursor -/

namespace Scan

/-- A text under work: `done` stands in front of the cursor, `rest` is not read yet, and what was
recorded comes from these lists. -/
def standing (done rest : List Char) (asked : List String) (included : List Inclusion) : Scan where
  document := String.ofList (done ++ rest)
  cursor := size done
  dependencies := .ofList asked
  inclusions := .ofList included

section
variable {o : Options} {hooks : PassHooks} (search : hooks.findTag = Hooks.builtin.findTag)
  {done rest : List Char} {asked : List String} {included : List Inclusion}
include search

private theorem findTag_standing :
    hooks.findTag o (standing done rest asked included).document
      (standing done rest asked included).cursor =
        findTag o.directiveTag (String.ofList (done ++ rest)) (size done) := by
  rw [search]
  rfl

theorem step_of_unopened (unopened : Unopened o.directiveTag rest) :
    (standing done rest asked included).step o hooks = .finished := by
  rw [step, findTag_standing search, findTag_eq_none_iff.2 unopened]

private theorem found_of_opens {before after : List Char} {name : String}
    (opens : Opens o.directiveTag rest before name after) :
    hooks.findTag o (standing done rest asked included).document
      (standing done rest asked included).cursor =
        some ⟨name, size done + size before, size done + size before + size (opening name)⟩ := by
  rw [findTag_standing search]
  exact findTag_eq_some_iff.2 ⟨before, after, opens, rfl, rfl⟩

omit search in
/-- What follows an opening is what the end of the tag is looked for in. -/
private theorem split_of_opens {before after : List Char} {name : String}
    (opens : Opens o.directiveTag rest before name after) :
    splitAt? (standing done rest asked included).document.toList
      (size done + size before + size (opening name)) =
        some (done ++ before ++ opening name, after) := by
  refine splitAt?_eq_some_iff.2 ⟨?_, by simp [Nat.add_assoc]⟩
  simp [standing, opens.whole]

theorem step_of_endless {before after : List Char} {name : String}
    (opens : Opens o.directiveTag rest before name after) (endless : '>' ∉ after) :
    (standing done rest asked included).step o hooks =
      if o.strict then .failed (.unterminatedTag (size done + size before)) else .finished := by
  have open_end : close? (standing done rest asked included).document.toList
      (size done + size before + size (opening name)) = none := by
    rw [close?, split_of_opens opens]
    simp [splitOnce?_eq_none_iff.2 endless]
  rw [step, found_of_opens search opens]
  simp only [open_end]

/-- A tag with an end is handed to the rule for tags, and what becomes of it takes its place in front
of the cursor. -/
theorem step_of_closed {before attributes after : List Char} {name : String}
    (opens : Opens o.directiveTag rest before name (attributes ++ '>' :: after))
    (inside : '>' ∉ attributes) :
    (standing done rest asked included).step o hooks =
      match hooks.answer o (tagText name attributes) attributes with
      | .error error => .failed error
      | .ok rewrite => .next (standing (done ++ before ++ rewrite.text.toList) after
          (asked ++ rewrite.dependencies) (included ++ rewrite.inclusion.toList)) := by
  have closed : close? (standing done rest asked included).document.toList
      (size done + size before + size (opening name)) =
        some (size done + size before + size (opening name) + size attributes) :=
    close?_eq_some_iff.2 ⟨done ++ before ++ opening name, attributes, after,
      by simp [standing, opens.whole], inside, by simp only [size_append],
      by simp only [size_append]⟩
  have parted : Scan.cut? (standing done rest asked included).document.toList
      ⟨name, size done + size before, size done + size before + size (opening name)⟩
      (size done + size before + size (opening name) + size attributes) =
        some ⟨done ++ before, tagText name attributes, attributes, after⟩ := by
    have whole : (standing done rest asked included).document.toList =
        done ++ before ++ (opening name ++ attributes ++ ['>']) ++ after := by
      simp [standing, opens.whole]
    have pieces := cut?_append
      ⟨name, size done + size before, size done + size before + size (opening name)⟩
      (done ++ before) (opening name) attributes after (by rw [size_append]) (by simp only [size_append])
    rw [whole, tagText, ← pieces]
    simp only [size_append]
  have behind : ¬ size done + size before + size (opening name) + size attributes ≤
      size done + size before := by
    have : 0 < size (opening name) := by
      simp only [opening, List.cons_append, size_cons]
      have := '<'.utf8Size_pos
      omega
    omega
  rw [step, found_of_opens search opens]
  simp only [closed, if_neg behind, parted]
  change (match hooks.answer o (tagText name attributes) attributes with
    | .error error => Step.failed error
    | .ok rewrite => _) = _
  cases hooks.answer o (tagText name attributes) attributes with
  | error error => rfl
  | ok rewrite =>
    simp only [place, standing, Dependencies.ofList_append,
      Inclusions.ofList_append_toList, size_append]

/-- The cursor gets from any place to what a pass over the unread text comes to. The length of that
text bounds the number of searches. -/
theorem run_of_pass {rounds : List Round} {stop : Stop} (pass : Pass o hooks rest rounds stop)
    {searches : Nat} (enough : rest.length ≤ searches) :
    run o hooks (searches + 1) (standing done rest asked included) =
      match stop with
      | .rest text => .ok (standing (done ++ Pass.written rounds) text
          (asked ++ Pass.asked rounds) (included ++ Pass.included rounds))
      | .unterminated before =>
        .error (.unterminatedTag (size done + size (Pass.written rounds) + size before))
      | .failed error => .error error := by
  induction pass generalizing done asked included searches with
  | clear unopened => simp [run, step_of_unopened search unopened]
  | lenient opens endless mode => simp [run, step_of_endless search opens endless, mode]
  | strict opens endless mode => simp [run, step_of_endless search opens endless, mode]
  | failed opens inside answer => simp [run, step_of_closed search opens inside, answer]
  | @round text before attributes after name rewrite rounds stop opens inside answer later ih =>
    -- The tag takes up at least one character of what was not read, and with it one search.
    have shorter := enough
    rw [opens.whole] at shorter
    simp only [List.length_append, List.length_cons] at shorter
    obtain ⟨searches, rfl⟩ : ∃ n, searches = n + 1 := ⟨searches - 1, by omega⟩
    rw [run, step_of_closed search opens inside, answer]
    simp only [ih (by omega : after.length ≤ searches)]
    cases stop <;> simp [Nat.add_assoc]

end

end Scan

theorem Text.length_le_size (cs : List Char) : cs.length ≤ size cs := by
  induction cs with
  | nil => exact Nat.le_refl _
  | cons c cs ih =>
    have := c.utf8Size_pos
    simp only [List.length_cons, size_cons]
    omega

/-- Editing a text in place comes to what its pass comes to. -/
theorem parse_of_pass {o : Options} {hooks : PassHooks}
    (search : hooks.findTag = Hooks.builtin.findTag) {text : String} {rounds : List Round}
    {stop : Stop} (pass : Pass o hooks text.toList rounds stop) :
    parse o hooks text = Pass.outcome rounds stop := by
  have start : ({ document := text } : Scan) = Scan.standing [] text.toList [] [] := by
    simp [Scan.standing, Dependencies.ofList, Dependencies.pushAll, Inclusions.ofList]
  rw [parse, start, Scan.run_of_pass search pass (length_le_size _)]
  cases stop with
  | unterminated before => simp [Pass.outcome, Except.map]
  | failed error => rfl
  | rest rest =>
    have listed := Dependencies.items_ofList (Pass.asked rounds)
    have entered := Inclusions.entries_ofList (Pass.included rounds)
    have none_iff : (Inclusions.ofList (Pass.included rounds)).entries.isEmpty = true ↔
        Pass.included rounds = [] := by
      rw [entered, List.isEmpty_iff, firsts_eq_nil_iff]
    simp only [Except.map, Pass.outcome, Scan.page, Scan.standing, Pass.page, List.nil_append,
      ← listed, ← entered, none_iff]

/-- The rules of a host that leaves the search for tags as it is. -/
def PassHooks.searching (hooks : PassHooks) : PassHooks :=
  { hooks with findTag := Hooks.builtin.findTag }

theorem PassHooks.findTag_searching (hooks : PassHooks) :
    hooks.searching.findTag = Hooks.builtin.findTag := rfl

/-- A text is worked in, whatever becomes of its tags, by one pass over what is unread of the text as
it was given. -/
theorem parse_eq_iff (o : Options) (hooks : PassHooks) (text : String)
    (result : Except ResolveError Page) :
    parse o hooks.searching text = result ↔
      ∃ rounds stop, Pass o hooks.searching text.toList rounds stop ∧
        Pass.outcome rounds stop = result := by
  constructor
  · rintro rfl
    obtain ⟨rounds, stop, pass⟩ := Pass.exists_pass o hooks.searching text.toList
    exact ⟨rounds, stop, pass, (parse_of_pass hooks.findTag_searching pass).symm⟩
  · rintro ⟨rounds, stop, pass, rfl⟩
    exact parse_of_pass hooks.findTag_searching pass

end Transclude
