import Transclude.Directive.Process
import Transclude.Proofs.Directive.Attributes
import Transclude.Proofs.Identifier

namespace Transclude

open Transclude.Text

theorem DirectiveKind.identifier_ne_empty (kind : DirectiveKind) {href : String}
    (nonempty : href ≠ "") (a : Attributes) (o : Options) : kind.identifier href a o ≠ "" := by
  cases kind with
  | style => exact Identifier.withLoader_ne_empty _ nonempty
  | dependency =>
    simp only [identifier]
    split
    · split
      · exact nonempty
      · exact Identifier.withLoader_ne_empty _ nonempty
    · exact nonempty
  | inclusion =>
    exact Identifier.withExtension_ne_empty _ (Identifier.withLoader_ne_empty _ nonempty)

/-- The characters of what an inclusion loads. -/
theorem DirectiveKind.mem_identifier_inclusion {href : String} {a : Attributes} {o : Options} {c : Char}
    (member : c ∈ (DirectiveKind.inclusion.identifier href a o).toList) :
    c ∈ ((a.nonEmpty? "type").getD o.inclusionLoader).toList ∨ c = '!' ∨ c ∈ href.toList ∨ c = '.' ∨
      c ∈ o.defaultInclusionExt.toList := by
  rcases Identifier.mem_withExtension member with loaded | dot | extension
  · rcases Identifier.mem_withLoader loaded with loader | mark | path
    · exact .inl loader
    · exact .inr (.inl mark)
    · exact .inr (.inr (.inl path))
  · exact .inr (.inr (.inr (.inl dot)))
  · exact .inr (.inr (.inr (.inr extension)))

namespace Directive

/-- What becomes of a tag. -/
inductive Becomes (o : Options) (hooks : TagHooks) (tag : String) (a : Attributes) : Rewrite → Prop where
  /-- A tag that is no directive, or that loads nothing. -/
  | rejected (none : hooks.filterTag o a = none ∨ a.nonEmpty? "href" = none) :
      Becomes o hooks tag a (.unchanged tag)
  /-- A style sheet or a dependency. -/
  | required {kind : DirectiveKind} {href : String} (filter : hooks.filterTag o a = some kind)
      (other : kind ≠ .inclusion) (path : a.nonEmpty? "href" = some href) :
      Becomes o hooks tag a (.dependency (kind.identifier href a o))
  /-- An inclusion whose condition fails. -/
  | dropped {href condition : String} (filter : hooks.filterTag o a = some .inclusion)
      (path : a.nonEmpty? "href" = some href) (conditional : a.get? "data-if" = some condition)
      (fails : hooks.processIf o
        ⟨condition, a, DirectiveKind.inclusion.identifier href a o, tag⟩ = .ok false) :
      Becomes o hooks tag a .removed
  /-- An inclusion without a condition, or with one that holds. -/
  | included {href : String} (filter : hooks.filterTag o a = some .inclusion)
      (path : a.nonEmpty? "href" = some href)
      (holds : ∀ condition, a.get? "data-if" = some condition → hooks.processIf o
        ⟨condition, a, DirectiveKind.inclusion.identifier href a o, tag⟩ = .ok true) :
      Becomes o hooks tag a (.included (DirectiveKind.inclusion.identifier href a o) a.data?)

variable {o : Options} {hooks : TagHooks} {tag : String} {a : Attributes} {rewrite : Rewrite}

private theorem becomes_of_processInclusion {href : String}
    (filter : hooks.filterTag o a = some .inclusion) (path : a.nonEmpty? "href" = some href)
    (processed : processInclusion o hooks tag a (DirectiveKind.inclusion.identifier href a o) =
      .ok rewrite) : Becomes o hooks tag a rewrite := by
  unfold processInclusion at processed
  split at processed
  · next unconditional =>
    cases processed
    exact .included filter path fun condition conditional => by
      rw [unconditional] at conditional
      cases conditional
  · next condition conditional =>
    split at processed
    · cases processed
    · next holds =>
      cases processed
      refine .included filter path fun other same => ?_
      rw [conditional] at same
      cases same
      exact holds
    · next fails =>
      cases processed
      exact .dropped filter path conditional fails

/-- A tag is worked in exactly if it becomes one of these. -/
theorem processTag_eq_ok_iff :
    processTag o hooks tag a = .ok rewrite ↔ Becomes o hooks tag a rewrite := by
  constructor
  · intro processed
    unfold processTag at processed
    split at processed
    · next kind href filter path =>
      cases kind with
      | style =>
        cases processed
        exact .required filter (by decide) path
      | dependency =>
        cases processed
        exact .required filter (by decide) path
      | inclusion => exact becomes_of_processInclusion filter path processed
    · next other =>
      cases processed
      refine .rejected ?_
      cases filter : hooks.filterTag o a with
      | none => exact .inl rfl
      | some kind =>
        cases path : a.nonEmpty? "href" with
        | none => exact .inr rfl
        | some href => exact (other kind href filter path).elim
  · intro becomes
    cases becomes with
    | rejected none =>
      rcases none with filter | path
      · simp only [processTag, filter]
      · cases filter : hooks.filterTag o a <;> simp only [processTag, filter, path]
    | @required kind href filter other path =>
      cases kind with
      | inclusion => exact absurd rfl other
      | _ => simp only [processTag, filter, path]
    | dropped filter path conditional fails =>
      simp only [processTag, filter, path, processInclusion, conditional, fails]
    | included filter path holds =>
      simp only [processTag, filter, path, processInclusion]
      cases conditional : a.get? "data-if" with
      | none => rfl
      | some condition => simp only [holds condition conditional]

/-- Only the condition of an inclusion can fail. -/
theorem processTag_eq_error_iff {error : ResolveError} :
    processTag o hooks tag a = .error error ↔ ∃ href condition,
      hooks.filterTag o a = some .inclusion ∧ a.nonEmpty? "href" = some href ∧
      a.get? "data-if" = some condition ∧ hooks.processIf o
        ⟨condition, a, DirectiveKind.inclusion.identifier href a o, tag⟩ = .error error := by
  constructor
  · intro processed
    unfold processTag at processed
    split at processed
    · next kind href filter path =>
      cases kind with
      | style => cases processed
      | dependency => cases processed
      | inclusion =>
        simp only [processInclusion] at processed
        split at processed
        · cases processed
        · next condition conditional =>
          split at processed
          · next fails =>
            cases processed
            exact ⟨href, condition, filter, path, conditional, fails⟩
          · cases processed
          · cases processed
    · cases processed
  · rintro ⟨href, condition, filter, path, conditional, fails⟩
    simp only [processTag, filter, path, processInclusion, conditional, fails]

/-- A tag that includes a document is replaced by the placeholder of the document, which is asked
for. -/
theorem Becomes.of_inclusion {i : Inclusion} (becomes : Becomes o hooks tag a rewrite)
    (inclusion : rewrite.inclusion = some i) :
    rewrite = .included i.name i.data ∧ ∃ href, a.nonEmpty? "href" = some href ∧
      i.name = DirectiveKind.inclusion.identifier href a o := by
  cases becomes with
  | included filter path holds =>
    cases inclusion
    exact ⟨rfl, _, path, rfl⟩
  | _ => cases inclusion

end Directive

end Transclude
