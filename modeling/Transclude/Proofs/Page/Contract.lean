import Mathlib
import Transclude.Proofs.Directive.Process
import Transclude.Proofs.Page.Pass

namespace Transclude

open Transclude.Text

/-- The inclusions of a page, none if it has no list of them. -/
def Page.entries (p : Page) : List Inclusion :=
  (p.inclusions.map (·.entries)).getD []

theorem Page.distinct_entries (p : Page) : (p.entries.map Inclusion.name).Nodup := by
  unfold entries
  cases p.inclusions with
  | none => exact List.nodup_nil
  | some list => exact list.distinct

/-- Pages with the same lists are the same page. -/
theorem Page.eq_of_lists {p q : Page} (text : p.resource = q.resource)
    (lists : p.dependencies.items = q.dependencies.items)
    (entries : p.inclusions.map Inclusions.entries = q.inclusions.map Inclusions.entries) : p = q := by
  obtain ⟨_, _, inclusions⟩ := p
  obtain ⟨_, _, inclusions'⟩ := q
  obtain rfl := text
  obtain rfl := Dependencies.ext lists
  have same : inclusions = inclusions' :=
    Option.map_injective (fun _ _ same => Inclusions.ext same) entries
  rw [same]

/-- What putting contents in relies on. -/
structure Page.WellFormed (p : Page) : Prop where
  /-- Nothing without a name is loaded. -/
  nonempty : ∀ identifier ∈ p.dependencies.items, identifier ≠ ""
  /-- Nothing is loaded twice. -/
  distinct : p.dependencies.items.Nodup
  /-- No two inclusions have one name. -/
  named : (p.entries.map Inclusion.name).Nodup
  /-- Every inclusion is loaded. -/
  loaded : ∀ i ∈ p.entries, i.name ∈ p.dependencies.items
  /-- Every inclusion has a placeholder in the text. -/
  marked : ∀ i ∈ p.entries,
    ("<link rel=\"x-include\" href=\"" ++ i.name ++ "\">").toList <:+: p.resource.toList
  /-- A page with a list of inclusions has an inclusion. -/
  recorded : p.inclusions = none ↔ p.entries = []

/-- The built-in rules, but for those that say what kind a tag is of and whether an inclusion stays. -/
def Hooks.deciding (filterTag : Options → Attributes → Option DirectiveKind)
    (processIf : Options → ConditionContext → Except ResolveError Bool) : PassHooks :=
  { Hooks.builtin.toPassHooks with filterTag := filterTag, processIf := processIf }

theorem Hooks.findTag_deciding (filterTag : Options → Attributes → Option DirectiveKind)
    (processIf : Options → ConditionContext → Except ResolveError Bool) :
    (Hooks.deciding filterTag processIf).findTag = Hooks.builtin.findTag := rfl

namespace PassHooks

section
variable {hooks : PassHooks} {o : Options} {tag attributes : List Char} {a : Attributes}
  {kind : DirectiveKind} {href identifier : String} {data : Option Data} {rewrite : Rewrite}
  (rule : hooks.processTag = Directive.processTag)
  (read : Attributes.parse (String.ofList attributes) = a)
include rule read

/-- The built-in rule for tags answers what a tag becomes. -/
theorem answer_of_becomes
    (becomes : Directive.Becomes o hooks.toTagHooks (String.ofList tag) a rewrite) :
    hooks.answer o tag attributes = .ok rewrite := by
  rw [answer, rule, read]
  exact Directive.processTag_eq_ok_iff.2 becomes

theorem answer_unchanged (unknown : hooks.filterTag o a = none) :
    hooks.answer o tag attributes = .ok (.unchanged (String.ofList tag)) :=
  answer_of_becomes rule read (.rejected (.inl unknown))

theorem answer_dependency (known : hooks.filterTag o a = some kind) (other : kind ≠ .inclusion)
    (path : a.nonEmpty? "href" = some href) (named : kind.identifier href a o = identifier) :
    hooks.answer o tag attributes = .ok (.dependency identifier) :=
  answer_of_becomes rule read (named ▸ .required known other path)

section
variable (known : hooks.filterTag o a = some .inclusion) (path : a.nonEmpty? "href" = some href)
  (named : DirectiveKind.inclusion.identifier href a o = identifier)
include known path named

theorem answer_removed {condition : String} (conditional : a.get? "data-if" = some condition)
    (fails : hooks.processIf o ⟨condition, a, identifier, String.ofList tag⟩ = .ok false) :
    hooks.answer o tag attributes = .ok .removed := by
  subst named
  exact answer_of_becomes rule read (.dropped known path conditional fails)

theorem answer_included (unconditional : a.get? "data-if" = none) (handed : a.data? = data) :
    hooks.answer o tag attributes = .ok (.included identifier data) := by
  subst named handed
  refine answer_of_becomes rule read (.included known path fun condition conditional => ?_)
  rw [unconditional] at conditional
  cases conditional

theorem answer_included_of_holds {condition : String} (conditional : a.get? "data-if" = some condition)
    (holds : hooks.processIf o ⟨condition, a, identifier, String.ofList tag⟩ = .ok true)
    (handed : a.data? = data) :
    hooks.answer o tag attributes = .ok (.included identifier data) := by
  subst named handed
  refine answer_of_becomes rule read (.included known path fun other same => ?_)
  rw [conditional] at same
  cases same
  exact holds

end

end

end PassHooks

namespace Pass

theorem entries_page (rounds : List Round) (rest : List Char) :
    (page rounds rest).entries = firsts Inclusion.name (included rounds) := by
  unfold page Page.entries
  by_cases empty : included rounds = []
  · simp [empty, firsts]
  · simp [empty]

theorem mem_entries_page {rounds : List Round} {rest : List Char} {i : Inclusion}
    (member : i ∈ (page rounds rest).entries) : ∃ r ∈ rounds, r.rewrite.inclusion = some i := by
  rw [entries_page] at member
  simpa [included] using mem_of_mem_firsts member

theorem mem_dependencies_page {rounds : List Round} {rest : List Char} {identifier : String} :
    identifier ∈ (page rounds rest).dependencies.items ↔
      identifier ≠ "" ∧ ∃ r ∈ rounds, identifier ∈ r.rewrite.dependencies := by
  have kept : identifier ∈ (firsts id ((asked rounds).filter (· ≠ ""))).map id ↔
      identifier ∈ ((asked rounds).filter (· ≠ "")).map id := mem_map_firsts_iff
  simpa [asked, page, and_comm] using kept

/-- What a round writes stays in the text. -/
theorem infix_resource_page {rounds : List Round} {r : Round} (member : r ∈ rounds)
    (rest : List Char) : r.rewrite.text.toList <:+: (page rounds rest).resource.toList := by
  obtain ⟨earlier, later, rfl⟩ := List.append_of_mem member
  refine ⟨written earlier ++ r.before, written later ++ rest, ?_⟩
  simp [page, written]

section
variable {o : Options} {filterTag : Options → Attributes → Option DirectiveKind}
  {processIf : Options → ConditionContext → Except ResolveError Bool} {text : List Char}
  {rounds : List Round} {stop : Stop}

/-- An inclusion comes from a tag with an `href`, whose text has no end of a tag in it. -/
private theorem origin (pass : Pass o (Hooks.deciding filterTag processIf) text rounds stop)
    {r : Round} (member : r ∈ rounds) {i : Inclusion} (inclusion : r.rewrite.inclusion = some i) :
    r.rewrite = .included i.name i.data ∧ '>' ∉ r.attributes ∧ ∃ href,
      (Attributes.parse (String.ofList r.attributes)).nonEmpty? "href" = some href ∧
      i.name = DirectiveKind.inclusion.identifier href
        (Attributes.parse (String.ofList r.attributes)) o := by
  obtain ⟨answer, inside, -⟩ := pass.of_mem member
  obtain ⟨shape, href, path, name⟩ :=
    (Directive.processTag_eq_ok_iff.1 answer).of_inclusion inclusion
  exact ⟨shape, inside, href, path, name⟩

theorem wellFormed (pass : Pass o (Hooks.deciding filterTag processIf) text rounds stop)
    (rest : List Char) : (page rounds rest).WellFormed where
  nonempty identifier member := (mem_dependencies_page.1 member).1
  distinct := (page rounds rest).dependencies.nodup
  named := (page rounds rest).distinct_entries
  loaded i member := by
    obtain ⟨r, inRounds, inclusion⟩ := mem_entries_page member
    obtain ⟨shape, -, href, path, name⟩ := pass.origin inRounds inclusion
    refine mem_dependencies_page.2 ⟨?_, r, inRounds, by simp [shape, Rewrite.included]⟩
    rw [name]
    exact DirectiveKind.identifier_ne_empty _ (Attributes.nonEmpty?_eq_some_iff.1 path).2 _ _
  marked i member := by
    obtain ⟨r, inRounds, inclusion⟩ := mem_entries_page member
    have kept := infix_resource_page inRounds rest
    rwa [(pass.origin inRounds inclusion).1] at kept
  recorded := by
    rw [entries_page, firsts_eq_nil_iff]
    unfold page
    by_cases empty : included rounds = [] <;> simp [empty]

/-- Only the options can bring a `>` into what an inclusion loads. -/
theorem not_mem_name (pass : Pass o (Hooks.deciding filterTag processIf) text rounds stop)
    (loader : '>' ∉ o.inclusionLoader.toList) (extension : '>' ∉ o.defaultInclusionExt.toList)
    {r : Round} (member : r ∈ rounds) {i : Inclusion} (inclusion : r.rewrite.inclusion = some i) :
    '>' ∉ i.name.toList := by
  obtain ⟨-, inside, href, path, name⟩ := pass.origin member inclusion
  -- No value of an attribute holds a `>`, for the text of the tag holds none.
  have clear : ∀ {name value},
      (Attributes.parse (String.ofList r.attributes)).nonEmpty? name = some value →
        '>' ∉ value.toList := by
    intro name value found inValue
    have piece := Attributes.infix_of_get?_parse (Attributes.nonEmpty?_eq_some_iff.1 found).1
    exact inside (by simpa using piece.subset inValue)
  intro inName
  rw [name] at inName
  rcases DirectiveKind.mem_identifier_inclusion inName with inLoader | mark | inPath | dot | inExt
  · cases type : (Attributes.parse (String.ofList r.attributes)).nonEmpty? "type" with
    | none => exact loader (by simpa [type] using inLoader)
    | some value => exact clear type (by simpa [type] using inLoader)
  · cases mark
  · exact clear path inPath
  · cases dot
  · exact extension inExt

end

end Pass

/-- A parsed page keeps what putting contents in relies on. It has no list of inclusions exactly if no
tag became one, and no inclusion has a `>` in its name unless the options bring one in. -/
theorem wellFormed_of_parse (o : Options)
    (filterTag : Options → Attributes → Option DirectiveKind)
    (processIf : Options → ConditionContext → Except ResolveError Bool) {text : String} {page : Page}
    (parsed : parse o (Hooks.deciding filterTag processIf) text = .ok page) :
    page.WellFormed ∧
    (∃ rounds rest, Pass o (Hooks.deciding filterTag processIf) text.toList rounds (.rest rest) ∧
      (page.inclusions = none ↔ ∀ r ∈ rounds, r.rewrite.inclusion = none)) ∧
    ('>' ∉ o.inclusionLoader.toList → '>' ∉ o.defaultInclusionExt.toList →
      ∀ i ∈ page.entries, '>' ∉ i.name.toList) := by
  obtain ⟨rounds, stop, pass⟩ := Pass.exists_pass o (Hooks.deciding filterTag processIf) text.toList
  rw [parse_of_pass (Hooks.findTag_deciding filterTag processIf) pass] at parsed
  cases stop with
  | unterminated before => cases parsed
  | failed error => cases parsed
  | rest rest =>
    cases parsed
    refine ⟨pass.wellFormed rest, ⟨rounds, rest, pass, ?_⟩, fun loader extension i member => ?_⟩
    · rw [(pass.wellFormed rest).recorded, Pass.entries_page, firsts_eq_nil_iff]
      simp [Pass.included]
    · obtain ⟨r, inRounds, inclusion⟩ := Pass.mem_entries_page member
      exact pass.not_mem_name loader extension inRounds inclusion

namespace Pass

/-- A text with a style sheet, a tag that is no directive, an inclusion whose condition fails, and an
inclusion that comes twice with other data. -/
def mixedText : String :=
  "a<link rel=css href=b><link rel=icon href=c><link rel=include href=d.e data-if=false>" ++
    "<link rel=include href=f.g data-n=1>h<link rel=include href=f.g data-n=2>i"

def mixed : List Round :=
  [⟨['a'], tagText "link" "rel=css href=b".toList, "rel=css href=b".toList, .dependency "css!b"⟩,
    ⟨[], tagText "link" "rel=icon href=c".toList, "rel=icon href=c".toList,
      .unchanged "<link rel=icon href=c>"⟩,
    ⟨[], tagText "link" "rel=include href=d.e data-if=false".toList,
      "rel=include href=d.e data-if=false".toList, .removed⟩,
    ⟨[], tagText "link" "rel=include href=f.g data-n=1".toList, "rel=include href=f.g data-n=1".toList,
      .included "view!f.g" (some [("n", "1")])⟩,
    ⟨['h'], tagText "link" "rel=include href=f.g data-n=2".toList,
      "rel=include href=f.g data-n=2".toList, .included "view!f.g" (some [("n", "2")])⟩]

theorem read_mixed : mixed.map (fun r => Attributes.parse (String.ofList r.attributes)) =
    [⟨[("href", "b"), ("rel", "css")]⟩, ⟨[("href", "c"), ("rel", "icon")]⟩,
      ⟨[("data-if", "false"), ("href", "d.e"), ("rel", "include")]⟩,
      ⟨[("data-n", "1"), ("href", "f.g"), ("rel", "include")]⟩,
      ⟨[("data-n", "2"), ("href", "f.g"), ("rel", "include")]⟩] := by
  have sheet : Attributes.parse (String.ofList "rel=css href=b".toList) =
      ⟨[("href", "b"), ("rel", "css")]⟩ := by cbv
  have icon : Attributes.parse (String.ofList "rel=icon href=c".toList) =
      ⟨[("href", "c"), ("rel", "icon")]⟩ := by cbv
  have absent : Attributes.parse (String.ofList "rel=include href=d.e data-if=false".toList) =
      ⟨[("data-if", "false"), ("href", "d.e"), ("rel", "include")]⟩ := by cbv
  have first : Attributes.parse (String.ofList "rel=include href=f.g data-n=1".toList) =
      ⟨[("data-n", "1"), ("href", "f.g"), ("rel", "include")]⟩ := by cbv
  have second : Attributes.parse (String.ofList "rel=include href=f.g data-n=2".toList) =
      ⟨[("data-n", "2"), ("href", "f.g"), ("rel", "include")]⟩ := by cbv
  simp only [mixed, List.map_cons, List.map_nil, sheet, icon, absent, first, second]

theorem answer_mixed : ∀ r ∈ mixed,
    Hooks.builtin.toPassHooks.answer .builtin r.tag r.attributes = .ok r.rewrite := by
  have read := read_mixed
  simp only [mixed, List.map_cons, List.map_nil, List.cons.injEq, and_true] at read
  obtain ⟨sheet, icon, absent, first, second⟩ := read
  simp only [mixed, List.forall_mem_cons]
  refine ⟨?_, ?_, ?_, ?_, ?_, by simp⟩
  · exact PassHooks.answer_dependency rfl sheet (by cbv) (by decide) rfl (by cbv)
  · exact PassHooks.answer_unchanged rfl icon (by cbv)
  · exact PassHooks.answer_removed rfl absent (by cbv) rfl rfl rfl (by cbv)
  · exact PassHooks.answer_included rfl first (by cbv) rfl (by cbv) rfl (by decide)
  · exact PassHooks.answer_included rfl second (by cbv) rfl (by cbv) rfl (by decide)

theorem pass_mixed :
    Pass .builtin Hooks.builtin.toPassHooks mixedText.toList mixed (.rest ['i']) := by
  have whole : mixedText.toList = ['a'] ++ (opening "link" ++ ("rel=css href=b".toList ++ '>' ::
      (opening "link" ++ ("rel=icon href=c".toList ++ '>' ::
      (opening "link" ++ ("rel=include href=d.e data-if=false".toList ++ '>' ::
      (opening "link" ++ ("rel=include href=f.g data-n=1".toList ++ '>' ::
      ['h'] ++ (opening "link" ++ ("rel=include href=f.g data-n=2".toList ++ '>' ::
      ['i'])))))))))) := by decide +kernel
  have answer := answer_mixed
  simp only [mixed, List.forall_mem_cons] at answer
  obtain ⟨sheet, icon, absent, first, second, -⟩ := answer
  rw [whole]
  exact .round (.behind_of_not_mem (by decide) (.start (by decide) _ _)) (by decide) sheet
    (.round (.start (by decide) _ _) (by decide) icon
    (.round (.start (by decide) _ _) (by decide) absent
    (.round (.start (by decide) _ _) (by decide) first
    (.round (.behind_of_not_mem (by decide) (.start (by decide) _ _)) (by decide) second
    (.clear (unopened_of_not_mem (by decide) _))))))

end Pass

/-- What is loaded twice is listed once, with the data of the first tag. -/
theorem wellFormed_of_parse_mixed :
    ∃ page, parse .builtin (Hooks.deciding Hooks.builtin.filterTag Hooks.builtin.processIf)
        Pass.mixedText = .ok page ∧
      page.resource = "a<link rel=icon href=c><link rel=\"x-include\" href=\"view!f.g\">h" ++
        "<link rel=\"x-include\" href=\"view!f.g\">i" ∧
      page.dependencies.items = ["css!b", "view!f.g"] ∧
      page.entries = [⟨"view!f.g", some [("n", "1")]⟩] ∧
      page.WellFormed ∧ ∀ i ∈ page.entries, '>' ∉ i.name.toList := by
  have parsed : parse .builtin (Hooks.deciding Hooks.builtin.filterTag Hooks.builtin.processIf)
      Pass.mixedText = .ok (Pass.page Pass.mixed ['i']) := parse_of_pass rfl Pass.pass_mixed
  obtain ⟨contract, -, clear⟩ := wellFormed_of_parse _ _ _ parsed
  refine ⟨_, parsed, by decide +kernel, by decide +kernel, ?_, contract, clear (by decide) (by decide)⟩
  rw [Pass.entries_page]
  rfl

end Transclude
