import Transclude.Proofs.Page.Concatenation

/-!
# Parsing a page once more

The text of a parsed page holds the tags that are no directives, and placeholders. Both come out of
another pass as they are, and what was taken out leaves nothing behind that opens a tag, as long as every
`<` between the tags is followed by a `>`. `parse_resource` says so of the page as a whole.
-/

namespace Transclude

open Transclude.Text

namespace Identifier

/-- An identifier that a placeholder gives back as it is: nothing is put in front of it or behind it,
and it does not end the attribute or the tag that it stands in. -/
structure Complete (identifier : String) : Prop where
  loader : hasLoader identifier = true
  extension : hasExtension identifier = true
  unquoted : '"' ∉ identifier.toList
  unclosed : '>' ∉ identifier.toList

theorem Complete.ne_empty {identifier : String} (complete : Complete identifier) :
    identifier ≠ "" := by
  rintro rfl
  exact absurd complete.loader (by decide)

/-- The text of the attributes of a placeholder, up to its identifier. -/
private def relation : List Char :=
  "rel=\"x-include\" href=\"".toList

/-- The text of the attributes of a placeholder. -/
def markerText (identifier : String) : List Char :=
  relation ++ identifier.toList ++ ['"']

def markerAttributes (identifier : String) : Attributes :=
  ⟨[("href", identifier), ("rel", "x-include")]⟩

theorem placeholder_eq_tagText (identifier : String) :
    (placeholder identifier).toList = tagText "link" (markerText identifier) := by
  have front : '<' :: head = opening "link" ++ relation := by decide
  calc (placeholder identifier).toList
      = ('<' :: head) ++ (identifier.toList ++ ['"'] ++ ['>']) := by
        rw [toList_placeholder]
        simp only [List.cons_append, List.append_assoc]
    _ = tagText "link" (markerText identifier) := by
        rw [front, tagText, markerText]
        simp only [List.append_assoc]

theorem Complete.not_mem_markerText {identifier : String} (complete : Complete identifier) :
    '>' ∉ markerText identifier := by
  have front : '>' ∉ relation := by decide
  simp [markerText, front, complete.unclosed]

/-- The attributes of a placeholder are read back, item by item. -/
theorem items_markerText {identifier : String} (unquoted : '"' ∉ identifier.toList) :
    Attributes.items (markerText identifier) =
      [(['r', 'e', 'l'], "x-include".toList), (['h', 'r', 'e', 'f'], identifier.toList)] := by
  have front : relation = 'r' :: ['e', 'l'] ++ '=' :: '"' :: ("x-include".toList ++
      '"' :: ' ' :: ['h', 'r', 'e', 'f', '=', '"']) := by decide
  have text : markerText identifier = 'r' :: ['e', 'l'] ++ '=' :: '"' :: ("x-include".toList ++ '"' ::
      (' ' :: ('h' :: ['r', 'e', 'f'] ++ '=' :: '"' :: (identifier.toList ++ '"' :: [])))) := by
    rw [markerText, front]
    simp only [List.cons_append, List.append_assoc, List.nil_append]
  have rel : ∀ d ∈ 'r' :: ['e', 'l'], Attributes.isNameChar d = true := by
    simp [Attributes.isNameChar, isBlank, blanks]
  have href : ∀ d ∈ 'h' :: ['r', 'e', 'f'], Attributes.isNameChar d = true := by
    simp [Attributes.isNameChar, isBlank, blanks]
  have plain : '"' ∉ "x-include".toList := by decide
  have blank : Attributes.isSeparator ' ' = true := by decide
  rw [text, Attributes.items_quoted rel (.inl rfl) plain, Attributes.items_of_separator blank,
    Attributes.items_quoted href (.inl rfl) unquoted, Attributes.items_nil]

theorem parse_markerText {identifier : String} (unquoted : '"' ∉ identifier.toList) :
    Attributes.parse (String.ofList (markerText identifier)) = markerAttributes identifier := by
  have names : Attributes.lower ['r', 'e', 'l'] = "rel" ∧
      Attributes.lower ['h', 'r', 'e', 'f'] = "href" := by decide
  have order : ("rel" : String) ≠ "href" ∧ ("href" : String) < "rel" := by decide
  rw [Attributes.parse, String.toList_ofList, items_markerText unquoted]
  simp only [Attributes.ofItems, List.foldl_cons, List.foldl_nil, names, String.ofList_toList]
  simp [Dict.insertNew, Dict.contains, Dict.get?, Dict.insert, order, markerAttributes]

/-- A placeholder is the tag of an inclusion of its identifier, without data. -/
theorem Complete.answer {identifier : String} (complete : Complete identifier) (o : Options) :
    Hooks.builtin.toPassHooks.answer o (tagText "link" (markerText identifier))
      (markerText identifier) = .ok (.included identifier none) := by
  have path : (markerAttributes identifier).nonEmpty? "href" = some identifier :=
    Attributes.nonEmpty?_eq_some_iff.2 ⟨rfl, complete.ne_empty⟩
  have known : (markerAttributes identifier).kind? = some .inclusion := by
    have rel : (markerAttributes identifier).get? "rel" = some "x-include" := rfl
    have kind : DirectiveKind.ofRel? "x-include" = some .inclusion := by decide
    simp only [Attributes.kind?, path, rel, kind]
  have named : DirectiveKind.inclusion.identifier identifier (markerAttributes identifier) o =
      identifier := by
    rw [DirectiveKind.identifier, withLoader_of_hasLoader complete.loader,
      withExtension_of_hasExtension complete.extension]
  exact PassHooks.answer_included rfl (parse_markerText complete.unquoted) known path named rfl rfl

end Identifier

namespace Pass

/-- A text that comes out of a pass as it is, and whose directives are inclusions of these names, in
this order and without data. -/
def Settled (o : Options) (text : List Char) (names : List String) : Prop :=
  ∃ rounds last, Pass o Hooks.builtin.toPassHooks text rounds (.rest last) ∧
    written rounds ++ last = text ∧ asked rounds = names ∧
    included rounds = names.map fun name => ⟨name, none⟩

section
variable {o : Options} (free : ∀ name ∈ o.directiveTag, '>' ∉ name.toList)
  {front more attributes : List Char} {names : List String}
include free

/-- A closed text in which no tag is opened may stand in front. -/
theorem Settled.behind (closed : AngleClosed front) (unopened : Unopened o.directiveTag front)
    (settled : Settled o more names) : Settled o (front ++ more) names := by
  obtain ⟨rounds, last, pass, writes, asks, includes⟩ := settled
  have pass' := pass.of_behind free closed unopened
  cases rounds with
  | nil => exact ⟨[], front ++ last, pass', by simp [← writes], asks, includes⟩
  | cons r rounds => exact ⟨_, last, pass', by simp [Pass.behind, ← writes], asks, includes⟩

end

variable {o : Options} {text attributes more last : List Char} {rounds : List Round} {name : String}
  {names : List String}

/-- A tag that is no directive may stand in front. -/
theorem Settled.unchanged
    (opens : Opens o.directiveTag (tagText name attributes ++ more) [] name (attributes ++ '>' :: more))
    (inside : '>' ∉ attributes)
    (answer : Hooks.builtin.toPassHooks.answer o (tagText name attributes) attributes =
      .ok (.unchanged (String.ofList (tagText name attributes))))
    (settled : Settled o more names) : Settled o (tagText name attributes ++ more) names := by
  obtain ⟨rounds, last, pass, writes, asks, includes⟩ := settled
  refine ⟨_, last, .round opens inside answer pass, ?_, ?_, ?_⟩
  · simp [Rewrite.unchanged, ← writes]
  · simpa [Rewrite.unchanged] using asks
  · simpa [Rewrite.unchanged] using includes

/-- A placeholder may stand in front. -/
theorem Settled.marker {identifier : String} {others : List String}
    (tags : o.directiveTag = "link" :: others) (complete : Identifier.Complete identifier)
    (settled : Settled o more names) :
    Settled o ((Identifier.placeholder identifier).toList ++ more) (identifier :: names) := by
  obtain ⟨rounds, last, pass, writes, asks, includes⟩ := settled
  have opens : Opens o.directiveTag ((Identifier.placeholder identifier).toList ++ more) [] "link"
      (Identifier.markerText identifier ++ '>' :: more) := by
    rw [tags, Identifier.placeholder_eq_tagText]
    simpa [tagText] using Opens.start (by decide) others _
  refine ⟨_, last, .round opens complete.not_mem_markerText (complete.answer o) pass, ?_, ?_, ?_⟩
  · simp [Rewrite.included, ← writes]
  · simp [Rewrite.included, asks]
  · simp [Rewrite.included, includes]

/-- What a pass leaves of a text is settled if every `<` between the tags is followed by a `>` and the
names of the inclusions are complete. -/
theorem settled {others : List String} (tags : o.directiveTag = "link" :: others)
    (free : ∀ name ∈ o.directiveTag, '>' ∉ name.toList) {stop : Stop}
    (pass : Pass o Hooks.builtin.toPassHooks text rounds stop) (ends : stop = .rest last)
    (segments : ∀ r ∈ rounds, AngleClosed r.before)
    (complete : ∀ i ∈ included rounds, Identifier.Complete i.name) :
    Settled o (written rounds ++ last) ((included rounds).map Inclusion.name) := by
  induction pass with
  | clear unopened =>
    cases ends
    exact ⟨[], last, .clear unopened, rfl, rfl, rfl⟩
  | lenient opens endless mode =>
    cases ends
    exact ⟨[], last, .lenient opens endless mode, rfl, rfl, rfl⟩
  | strict | failed => cases ends
  | @round text before attributes after name rewrite rounds stop opens inside answer later ih =>
    have closed : AngleClosed before := segments _ List.mem_cons_self
    have rest : Settled o (written rounds ++ last) ((included rounds).map Inclusion.name) :=
      ih ends (fun r member => segments r (List.mem_cons_of_mem _ member))
        fun i member => complete i (by simp [member])
    have front : ∀ {text names}, Settled o text names → Settled o (before ++ text) names :=
      Settled.behind free closed opens.unopened_before
    -- What stands in place of the tag, if anything does, comes between the text before it and the rest.
    cases Directive.processTag_eq_ok_iff.1 answer with
    | rejected =>
      have kept := front (rest.unchanged (opens.alone free _) inside answer)
      simpa [Rewrite.unchanged] using kept
    | required => simpa [Rewrite.dependency] using front rest
    | dropped => simpa [Rewrite.removed] using front rest
    | @included href =>
      let a := Attributes.parse (String.ofList attributes)
      have named := complete ⟨DirectiveKind.inclusion.identifier href a o, a.data?⟩
        (by simp [Rewrite.included, a])
      have kept := front (rest.marker tags named)
      simpa [Rewrite.included] using kept

end Pass

/-- The inclusions without their data. -/
def Inclusions.bare (r : Inclusions) : Inclusions where
  entries := r.entries.map fun i => ⟨i.name, none⟩
  distinct := by simpa [Function.comp_def] using r.distinct

/-- A page that loads nothing but inclusions of these names, and hands them no data. -/
def Page.including (text : String) (names : List String) : Page where
  resource := text
  dependencies := .ofList names
  inclusions := if names = [] then none else some (.ofList (names.map fun name => ⟨name, none⟩))

/-- A page that loads nothing but its inclusions, in their order, and hands them no data. -/
def Page.reduced (p : Page) : Page where
  resource := p.resource
  dependencies := .ofList (p.entries.map Inclusion.name)
  inclusions := p.inclusions.map Inclusions.bare

/-- The inclusions are loaded in their order if each of them has a name. -/
theorem Page.items_reduced {p : Page} (nonempty : "" ∉ p.entries.map Inclusion.name) :
    p.reduced.dependencies.items = p.entries.map Inclusion.name :=
  Dependencies.items_ofList_of_nodup p.distinct_entries nonempty

namespace Pass

theorem map_name_entries_page (rounds : List Round) (rest : List Char) :
    (page rounds rest).entries.map Inclusion.name =
      firsts id ((included rounds).map Inclusion.name) := by
  have mapped : firsts id ((included rounds).map Inclusion.name) =
      (firsts Inclusion.name (included rounds)).map Inclusion.name := firsts_map (fun _ => rfl) _
  rw [entries_page, mapped]

theorem exists_entry_page {rounds : List Round} {i : Inclusion} (member : i ∈ included rounds)
    (rest : List Char) : ∃ j ∈ (page rounds rest).entries, j.name = i.name := by
  have listed : i.name ∈ (firsts Inclusion.name (included rounds)).map Inclusion.name :=
    mem_map_firsts_iff.2 (List.mem_map_of_mem member)
  rw [← entries_page rounds rest] at listed
  exact List.mem_map.1 listed

theorem reduced_page (rounds : List Round) (rest : List Char)
    (nonempty : "" ∉ (included rounds).map Inclusion.name) :
    (page rounds rest).reduced = .including (String.ofList (written rounds ++ rest))
      ((included rounds).map Inclusion.name) := by
  have kept : ((included rounds).map Inclusion.name).filter (· ≠ "") =
      (included rounds).map Inclusion.name :=
    List.filter_eq_self.2 fun name member =>
      decide_eq_true fun empty : name = "" => nonempty (empty ▸ member)
  have named := map_name_entries_page rounds rest
  have clear : "" ∉ (page rounds rest).entries.map Inclusion.name := fun member =>
    nonempty (mem_of_mem_firsts (named ▸ member))
  refine Page.eq_of_lists rfl ?_ ?_
  · rw [Page.items_reduced clear, named, Page.including, Dependencies.items_ofList, kept]
  · unfold Page.reduced Page.including page
    by_cases none_there : included rounds = []
    · simp [none_there]
    · have bare : firsts Inclusion.name ((included rounds).map fun i => (⟨i.name, none⟩ : Inclusion)) =
          (firsts Inclusion.name (included rounds)).map fun i => ⟨i.name, none⟩ :=
        firsts_map (fun _ => rfl) _
      simp [none_there, Inclusions.bare, Inclusions.entries_ofList, Function.comp_def, bare]

/-- Parsing a settled text changes nothing about it. -/
theorem Settled.parse_eq {o : Options} {text : List Char} {names : List String}
    (settled : Settled o text names) :
    parse o Hooks.builtin.toPassHooks (String.ofList text) =
      .ok (.including (String.ofList text) names) := by
  obtain ⟨rounds, last, pass, rfl, rfl, includes⟩ := settled
  have none_iff : included rounds = [] ↔ asked rounds = [] := by
    rw [includes, List.map_eq_nil_iff]
  rw [parse_of_pass rfl (by simpa using pass)]
  refine congrArg Except.ok (Page.eq_of_lists rfl ?_ ?_)
  · rw [Page.including, Dependencies.items_ofList, page]
  · unfold Page.including page
    by_cases none_there : asked rounds = []
    · simp [none_there, none_iff]
    · simp [none_there, Inclusions.entries_ofList, includes]

end Pass

/-- Parsing the text of a parsed page gives that text once more. Its inclusions are all that is loaded,
in the same order and without data. This holds if every `<` in the text between two tags, or before the
first one, is followed there by a `>`, and if the name of every inclusion has a loader, an extension and
no quotation mark. -/
theorem parse_resource {text : String} {page : Page} {rounds : List Round} {stop : Stop}
    (parsed : parse .builtin Hooks.builtin.toPassHooks text = .ok page)
    (pass : Pass .builtin Hooks.builtin.toPassHooks text.toList rounds stop)
    (segments : ∀ r ∈ rounds, AngleClosed r.before)
    (names : ∀ i ∈ page.entries, Identifier.hasLoader i.name = true ∧
      Identifier.hasExtension i.name = true ∧ '"' ∉ i.name.toList) :
    parse .builtin Hooks.builtin.toPassHooks page.resource = .ok page.reduced ∧
      page.reduced.dependencies.items = page.entries.map Inclusion.name := by
  rw [parse_of_pass rfl pass] at parsed
  cases stop with
  | unterminated before => cases parsed
  | failed error => cases parsed
  | rest last =>
    cases parsed
    have complete : ∀ i ∈ Pass.included rounds, Identifier.Complete i.name := by
      intro i member
      obtain ⟨j, inside, same⟩ := Pass.exists_entry_page member last
      obtain ⟨loader, extension, unquoted⟩ := same ▸ names j inside
      obtain ⟨r, inRounds, inclusion⟩ : ∃ r ∈ rounds, r.rewrite.inclusion = some i := by
        simpa [Pass.included] using member
      have built : Pass .builtin (Hooks.deciding Hooks.builtin.filterTag Hooks.builtin.processIf)
          text.toList rounds (.rest last) := pass
      exact ⟨loader, extension, unquoted,
        built.not_mem_name (by decide) (by decide) inRounds inclusion⟩
    have free : ∀ name ∈ Options.builtin.directiveTag, '>' ∉ name.toList := by decide
    have settled := Pass.settled rfl free pass rfl segments complete
    have nonempty : "" ∉ (Pass.included rounds).map Inclusion.name := by
      intro member
      obtain ⟨i, inside, empty⟩ := List.mem_map.1 member
      exact (complete i inside).ne_empty empty
    have clear : "" ∉ (Pass.page rounds last).entries.map Inclusion.name := fun member =>
      nonempty (mem_of_mem_firsts (Pass.map_name_entries_page rounds last ▸ member))
    rw [Page.items_reduced clear, Pass.reduced_page rounds last nonempty]
    exact ⟨settled.parse_eq, rfl⟩

/-- The style sheet, the failing inclusion and the data are gone when the text is parsed once more. -/
theorem parse_resource_mixed :
    let hooks := Hooks.builtin.toPassHooks
    let resource := "a<link rel=icon href=c><link rel=\"x-include\" href=\"view!f.g\">h" ++
      "<link rel=\"x-include\" href=\"view!f.g\">i"
    parse .builtin hooks Pass.mixedText = .ok ⟨resource, .ofList ["css!b", "view!f.g"],
      some (.ofList [⟨"view!f.g", some [("n", "1")]⟩])⟩ ∧
    parse .builtin hooks resource =
      .ok ⟨resource, .ofList ["view!f.g"], some (.ofList [⟨"view!f.g", none⟩])⟩ := by
  intro hooks resource
  let page : Page := ⟨resource, .ofList ["css!b", "view!f.g"],
    some (.ofList [⟨"view!f.g", some [("n", "1")]⟩])⟩
  have parsed : parse .builtin hooks Pass.mixedText = .ok page := by
    have shape : Pass.page Pass.mixed ['i'] = page := by decide +kernel
    rw [parse_of_pass rfl Pass.pass_mixed, Pass.outcome, shape]
  have segments : ∀ r ∈ Pass.mixed, AngleClosed r.before := by
    have plain : ∀ r ∈ Pass.mixed, '<' ∉ r.before := by decide
    exact fun r member => angleClosed_of_not_mem (plain r member)
  have names : ∀ i ∈ page.entries, Identifier.hasLoader i.name = true ∧
      Identifier.hasExtension i.name = true ∧ '"' ∉ i.name.toList := by decide
  have again : parse .builtin hooks page.resource = .ok page.reduced :=
    (parse_resource parsed Pass.pass_mixed segments names).1
  have shape : page.reduced =
      ⟨resource, .ofList ["view!f.g"], some (.ofList [⟨"view!f.g", none⟩])⟩ := by decide +kernel
  exact ⟨parsed, again.trans (congrArg Except.ok shape)⟩

end Transclude
