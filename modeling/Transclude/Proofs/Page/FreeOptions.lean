import Transclude.Proofs.Condition.Readers
import Transclude.Proofs.Condition.Refusal
import Transclude.Proofs.Page.Contract

namespace Transclude

open Transclude.Text

/-- The options with others in place of those that are not recognized. -/
def Options.freely (o : Options) (extra : Dict Setting) : Options :=
  { o with extra := extra }

/-- The attributes make a tag a directive of a kind, and what it loads has an identifier. -/
inductive Attributes.Loads (a : Attributes) (o : Options) : DirectiveKind → String → Prop where
  | directive {kind : DirectiveKind} {href : String} (known : a.kind? = some kind)
      (path : a.nonEmpty? "href" = some href) : Loads a o kind (kind.identifier href a o)

namespace Attributes.Loads

variable {a : Attributes} {o : Options} {kind : DirectiveKind} {identifier : String}

theorem ne_empty (loads : a.Loads o kind identifier) : identifier ≠ "" := by
  obtain ⟨-, path⟩ := loads
  exact kind.identifier_ne_empty (nonEmpty?_eq_some_iff.1 path).2 a o

theorem freely (loads : a.Loads o kind identifier) (extra : Dict Setting) :
    a.Loads (o.freely extra) kind identifier := by
  obtain ⟨known, path⟩ := loads
  exact .directive known path

end Attributes.Loads

/-- What a tag asks for is what its attributes make it load. Only a condition can keep it from asking. -/
theorem Directive.Becomes.dependencies {o : Options} {tag : String} {a : Attributes} {rewrite : Rewrite}
    (becomes : Becomes o Hooks.builtin.toTagHooks tag a rewrite) {identifier : String} :
    (identifier ∈ rewrite.dependencies → ∃ kind, a.Loads o kind identifier) ∧
    ∀ kind, a.Loads o kind identifier → (kind = .inclusion → a.get? "data-if" = none) →
      identifier ∈ rewrite.dependencies := by
  cases becomes with
  | rejected none =>
    refine ⟨fun asked => absurd asked List.not_mem_nil, fun kind loads _ => ?_⟩
    obtain ⟨known, path⟩ := loads
    rcases none with filter | absent
    · rw [show a.kind? = none from filter] at known
      cases known
    · rw [absent] at path
      cases path
  | @required kind href filter other path =>
    refine ⟨fun asked => ?_, fun kind' loads _ => ?_⟩
    · obtain rfl := List.mem_singleton.1 asked
      exact ⟨kind, .directive filter path⟩
    · obtain ⟨known, path'⟩ := loads
      obtain rfl := Option.some.inj ((show a.kind? = some kind from filter).symm.trans known)
      obtain rfl := Option.some.inj (path.symm.trans path')
      exact List.mem_singleton_self _
  | @dropped href condition filter path conditional fails =>
    refine ⟨fun asked => absurd asked List.not_mem_nil, fun kind loads unconditional => ?_⟩
    obtain ⟨known, -⟩ := loads
    obtain rfl := Option.some.inj ((show a.kind? = some .inclusion from filter).symm.trans known)
    rw [unconditional rfl] at conditional
    cases conditional
  | @included href filter path holds =>
    refine ⟨fun asked => ?_, fun kind loads _ => ?_⟩
    · obtain rfl := List.mem_singleton.1 asked
      exact ⟨.inclusion, .directive filter path⟩
    · obtain ⟨known, path'⟩ := loads
      obtain rfl := Option.some.inj ((show a.kind? = some .inclusion from filter).symm.trans known)
      obtain rfl := Option.some.inj (path.symm.trans path')
      exact List.mem_singleton_self _

section
variable {o : Options} (extra : Dict Setting) {text tag attributes : List Char}

theorem answer_freely_eq_error_iff {error : ResolveError} :
    Hooks.builtin.toPassHooks.answer (o.freely extra) tag attributes = .error error ↔
      Hooks.builtin.toPassHooks.answer o tag attributes = .error error := by
  have refuses : ∀ context : ConditionContext,
      Hooks.builtin.processIf (o.freely extra) context = .error error ↔
        Hooks.builtin.processIf o context = .error error :=
    fun context => Condition.evaluate_eq_error_iff (o.freely extra) o
  refine Directive.processTag_eq_error_iff.trans (Iff.trans ?_ Directive.processTag_eq_error_iff.symm)
  exact exists_congr fun href => exists_congr fun condition =>
    and_congr_right fun _ => and_congr_right fun _ => and_congr_right fun _ => refuses _

theorem exists_answer_freely {rewrite : Rewrite}
    (answer : Hooks.builtin.toPassHooks.answer o tag attributes = .ok rewrite) :
    ∃ rewrite', Hooks.builtin.toPassHooks.answer (o.freely extra) tag attributes = .ok rewrite' := by
  cases other : Hooks.builtin.toPassHooks.answer (o.freely extra) tag attributes with
  | ok rewrite' => exact ⟨rewrite', rfl⟩
  | error error =>
    rw [(answer_freely_eq_error_iff extra).1 other] at answer
    cases answer

theorem Handed.freely (handed : Handed o Hooks.builtin.toPassHooks text tag attributes) :
    Handed (o.freely extra) Hooks.builtin.toPassHooks text tag attributes := by
  induction handed with
  | first opens inside => exact .first opens inside
  | later opens inside answer _ ih =>
    obtain ⟨rewrite', answer'⟩ := exists_answer_freely extra answer
    exact .later opens inside answer' ih

theorem handed_freely_iff : Handed (o.freely extra) Hooks.builtin.toPassHooks text tag attributes ↔
    Handed o Hooks.builtin.toPassHooks text tag attributes :=
  ⟨fun handed => handed.freely o.extra, fun handed => handed.freely extra⟩

theorem Pass.exists_freely {rounds : List Round} {stop : Stop}
    (pass : Pass o Hooks.builtin.toPassHooks text rounds stop) :
    ∃ rounds', Pass (o.freely extra) Hooks.builtin.toPassHooks text rounds' stop := by
  induction pass with
  | clear unopened => exact ⟨[], .clear unopened⟩
  | lenient opens endless mode => exact ⟨[], .lenient opens endless mode⟩
  | strict opens endless mode => exact ⟨[], .strict opens endless mode⟩
  | failed opens inside answer =>
    exact ⟨[], .failed opens inside ((answer_freely_eq_error_iff extra).2 answer)⟩
  | round opens inside answer _ ih =>
    obtain ⟨rewrite', answer'⟩ := exists_answer_freely extra answer
    obtain ⟨rounds', later⟩ := ih
    exact ⟨_, .round opens inside answer' later⟩

variable {rounds : List Round} {rest : List Char} {identifier : String}

/-- What a page depends on is what a tag of its text loads. -/
theorem Pass.exists_loads (pass : Pass o Hooks.builtin.toPassHooks text rounds (.rest rest))
    (listed : identifier ∈ (page rounds rest).dependencies.items) :
    ∃ tag attributes kind, Handed o Hooks.builtin.toPassHooks text tag attributes ∧
      (Attributes.parse (String.ofList attributes)).Loads o kind identifier := by
  obtain ⟨-, r, member, asked⟩ := mem_dependencies_page.1 listed
  have becomes := Directive.processTag_eq_ok_iff.1 (pass.of_mem member).1
  obtain ⟨kind, loads⟩ := becomes.dependencies.1 asked
  exact ⟨r.tag, r.attributes, kind, pass.handed_iff.2 ⟨r, member, rfl, rfl⟩, loads⟩

/-- A page depends on all that the tags of its text load without a condition. -/
theorem Pass.mem_dependencies_of_loads (pass : Pass o Hooks.builtin.toPassHooks text rounds (.rest rest))
    (handed : Handed o Hooks.builtin.toPassHooks text tag attributes) {kind : DirectiveKind}
    (loads : (Attributes.parse (String.ofList attributes)).Loads o kind identifier)
    (unconditional : kind = .inclusion →
      (Attributes.parse (String.ofList attributes)).get? "data-if" = none) :
    identifier ∈ (page rounds rest).dependencies.items := by
  obtain ⟨r, member, rfl, rfl⟩ := pass.handed_iff.1 handed
  have becomes := Directive.processTag_eq_ok_iff.1 (pass.of_mem member).1
  exact mem_dependencies_page.2
    ⟨loads.ne_empty, r, member, becomes.dependencies.2 kind loads unconditional⟩

/-- What only one of two pages depends on is loaded under a condition. -/
private theorem conditional_of_mem {rounds' : List Round}
    (pass : Pass o Hooks.builtin.toPassHooks text rounds (.rest rest))
    (pass' : Pass (o.freely extra) Hooks.builtin.toPassHooks text rounds' (.rest rest))
    (listed : identifier ∈ (Pass.page rounds rest).dependencies.items)
    (missing : identifier ∉ (Pass.page rounds' rest).dependencies.items) :
    ∃ tag attributes condition, Handed o Hooks.builtin.toPassHooks text tag attributes ∧
      (Attributes.parse (String.ofList attributes)).Loads o .inclusion identifier ∧
      (Attributes.parse (String.ofList attributes)).get? "data-if" = some condition := by
  obtain ⟨tag, attributes, kind, handed, loads⟩ := pass.exists_loads listed
  have decided : ¬ (kind = .inclusion →
      (Attributes.parse (String.ofList attributes)).get? "data-if" = none) := fun unconditional =>
    missing (pass'.mem_dependencies_of_loads (handed.freely extra) (loads.freely extra) unconditional)
  obtain ⟨rfl, conditional⟩ := Classical.not_imp.1 decided
  obtain ⟨condition, held⟩ := Option.ne_none_iff_exists'.1 conditional
  exact ⟨tag, attributes, condition, handed, loads, held⟩

end

/-- Whether and how a page fails does not depend on the options that are not recognized, and neither does
which tags are worked in. A page depends on all that is loaded without a condition, and what it depends on
under some of those options only is an inclusion that has a condition. -/
theorem parse_freely (o : Options) (extra : Dict Setting) (text : String) :
    let hooks := Hooks.builtin.toPassHooks
    let parsed := parse o hooks text
    let parsed' := parse (o.freely extra) hooks text
    (∀ expression cause, parsed = .error (.condition expression cause) ↔
      parsed' = .error (.condition expression cause)) ∧
    ((∃ position, parsed = .error (.unterminatedTag position)) ↔
      ∃ position, parsed' = .error (.unterminatedTag position)) ∧
    ((∃ page, parsed = .ok page) ↔ ∃ page', parsed' = .ok page') ∧
    (∀ tag attributes, Handed o hooks text.toList tag attributes ↔
      Handed (o.freely extra) hooks text.toList tag attributes) ∧
    ∀ page page', parsed = .ok page → parsed' = .ok page' →
      (∀ tag attributes kind identifier, Handed o hooks text.toList tag attributes →
        (Attributes.parse (String.ofList attributes)).Loads o kind identifier →
        (kind = .inclusion → (Attributes.parse (String.ofList attributes)).get? "data-if" = none) →
          identifier ∈ page.dependencies.items ∧ identifier ∈ page'.dependencies.items) ∧
      ∀ identifier, ¬ (identifier ∈ page.dependencies.items ↔ identifier ∈ page'.dependencies.items) →
        ∃ tag attributes condition, Handed o hooks text.toList tag attributes ∧
          (Attributes.parse (String.ofList attributes)).Loads o .inclusion identifier ∧
          (Attributes.parse (String.ofList attributes)).get? "data-if" = some condition := by
  intro hooks parsed parsed'
  obtain ⟨rounds, stop, pass⟩ := Pass.exists_pass o hooks text.toList
  obtain ⟨rounds', pass'⟩ := pass.exists_freely extra
  have one : parsed = Pass.outcome rounds stop := parse_of_pass rfl pass
  have two : parsed' = Pass.outcome rounds' stop := parse_of_pass rfl pass'
  rw [one, two]
  refine ⟨fun expression cause => ?_, ?_, ?_, fun tag attributes => (handed_freely_iff extra).symm, ?_⟩
  · cases stop <;> simp [Pass.outcome]
  · cases stop <;> simp [Pass.outcome]
  · cases stop <;> simp [Pass.outcome]
  · intro page page' first second
    cases stop with
    | unterminated before => cases first
    | failed error => cases first
    | rest rest =>
      cases first
      cases second
      refine ⟨fun tag attributes kind identifier handed loads unconditional => ⟨?_, ?_⟩,
        fun identifier differs => ?_⟩
      · exact pass.mem_dependencies_of_loads handed loads unconditional
      · exact pass'.mem_dependencies_of_loads (handed.freely extra) (loads.freely extra) unconditional
      · by_cases listed : identifier ∈ (Pass.page rounds rest).dependencies.items
        · have missing : identifier ∉ (Pass.page rounds' rest).dependencies.items :=
            fun listed' => differs ⟨fun _ => listed', fun _ => listed⟩
          exact conditional_of_mem extra pass pass' listed missing
        · have listed' : identifier ∈ (Pass.page rounds' rest).dependencies.items := by
            by_contra missing
            exact differs ⟨fun held => absurd held listed, fun held => absurd held missing⟩
          obtain ⟨tag, attributes, condition, handed, loads, held⟩ :=
            conditional_of_mem o.extra pass' pass listed' listed
          exact ⟨tag, attributes, condition, handed.freely o.extra, loads.freely o.extra, held⟩

/-- An inclusion whose condition asks for a free option, with and without that option. -/
theorem parse_freely_conditional :
    let hooks := Hooks.builtin.toPassHooks
    let text := "<link rel=include href=a.b data-if=config.a>"
    let free := Options.builtin.freely [("a", .boolean true)]
    ∃ page page', parse .builtin hooks text = .ok page ∧ parse free hooks text = .ok page' ∧
      page.dependencies.items = [] ∧ page'.dependencies.items = ["view!a.b"] ∧
      ∃ tag attributes condition, Handed .builtin hooks text.toList tag attributes ∧
        (Attributes.parse (String.ofList attributes)).Loads .builtin .inclusion "view!a.b" ∧
        (Attributes.parse (String.ofList attributes)).get? "data-if" = some condition := by
  intro hooks text free
  let inner := "rel=include href=a.b data-if=config.a".toList
  have read : Attributes.parse (String.ofList "rel=include href=a.b data-if=config.a".toList) =
      ⟨[("data-if", "config.a"), ("href", "a.b"), ("rel", "include")]⟩ := by cbv
  have known : Attributes.kind? ⟨[("data-if", "config.a"), ("href", "a.b"), ("rel", "include")]⟩ =
      some .inclusion := by cbv
  have named : DirectiveKind.inclusion.identifier "a.b"
      ⟨[("data-if", "config.a"), ("href", "a.b"), ("rel", "include")]⟩ .builtin = "view!a.b" := by cbv
  have evaluates : ∀ o, Condition.evaluate "config.a" o =
      .ok ((Condition.Expr.option "a").value o).truthy := by
    intro o
    have tokenized : Condition.tokens "config.a".toList = .ok [.name "config", .dot, .name "a"] := by cbv
    have derived := Condition.Derives.dotted "a"
    have whole := derived.negation.equality.conjunction.disjunction
    simp only [Condition.evaluate, tokenized,
      Condition.readAll_eq_ok_iff.2 ⟨_, whole, Nat.zero_le _, rfl⟩]
  have fails : Condition.evaluate "config.a" .builtin = .ok false := evaluates .builtin
  have holds : Condition.evaluate "config.a" free = .ok true := evaluates free
  have dropped : hooks.answer .builtin (tagText "link" inner) inner = .ok .removed :=
    PassHooks.answer_removed rfl read known rfl named rfl fails
  have included : hooks.answer free (tagText "link" inner) inner =
      .ok (.included "view!a.b" (some [("if", "config.a")])) :=
    PassHooks.answer_included_of_holds rfl read known rfl named rfl holds (by decide)
  have opens : Opens ["link", "x-link"] text.toList [] "link" (inner ++ '>' :: []) := by
    have whole : text.toList = opening "link" ++ (inner ++ '>' :: []) := by decide
    exact whole ▸ .start (by decide) _ _
  have closed : '>' ∉ inner := by decide
  have nothing : Unopened ["link", "x-link"] [] := unopened_of_not_mem List.not_mem_nil _
  have pass : Pass .builtin hooks text.toList [⟨[], tagText "link" inner, inner, .removed⟩] (.rest []) :=
    .round opens closed dropped (.clear nothing)
  have pass' : Pass free hooks text.toList
      [⟨[], tagText "link" inner, inner, .included "view!a.b" (some [("if", "config.a")])⟩] (.rest []) :=
    .round opens closed included (.clear nothing)
  have parsed : parse .builtin hooks text = .ok _ := parse_of_pass rfl pass
  have parsed' : parse free hooks text = .ok _ := parse_of_pass rfl pass'
  obtain ⟨-, -, -, -, pages⟩ := parse_freely .builtin [("a", .boolean true)] text
  exact ⟨_, _, parsed, parsed', rfl, rfl, (pages _ _ parsed parsed').2 "view!a.b" (by decide)⟩

end Transclude
