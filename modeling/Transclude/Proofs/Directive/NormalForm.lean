import Transclude.Page.Parse
import Transclude.Proofs.Directive.Process
import Transclude.Proofs.Page.Firsts

namespace Transclude

open Transclude.Text
open Transclude.Identifier (withLoader withExtension lastSegment)

namespace DirectiveKind

/-- The loader that applies to a directive, empty if there is none. -/
def loader (kind : DirectiveKind) (a : Attributes) (o : Options) : String :=
  match kind with
  | .style => o.cssLoader
  | .dependency => (a.nonEmpty? "type").getD ""
  | .inclusion => (a.nonEmpty? "type").getD o.inclusionLoader

/-- The extension that applies to a directive, empty if there is none. -/
def extension (kind : DirectiveKind) (o : Options) : String :=
  match kind with
  | .style => ""
  | .dependency => ""
  | .inclusion => o.defaultInclusionExt

variable {kind : DirectiveKind} {href : String} {a b : Attributes} {o : Options}

/-- Every identifier is completed in the same way, with the loader and the extension that apply. -/
theorem identifier_eq (kind : DirectiveKind) (href : String) (a : Attributes) (o : Options) :
    kind.identifier href a o =
      withExtension (withLoader href (kind.loader a o)) (kind.extension o) := by
  cases kind with
  | style => simp [identifier, loader, extension, withExtension]
  | inclusion => rfl
  | dependency =>
    cases typed : a.nonEmpty? "type" with
    | none => simp [identifier, loader, extension, typed, withExtension, withLoader]
    | some name =>
      by_cases held : Identifier.hasLoader href = true
      · simp [identifier, loader, extension, typed, withExtension, withLoader, held]
      · simp [identifier, loader, extension, typed, withExtension, held]

theorem loader_congr (typed : b.nonEmpty? "type" = a.nonEmpty? "type") :
    kind.loader b o = kind.loader a o := by
  cases kind <;> simp [loader, typed]

/-- An identifier has its loader and its extension. -/
theorem complete_identifier (kind : DirectiveKind) (a : Attributes)
    (word : ∀ c ∈ (kind.loader a o).toList, isWord c = true)
    (plain : ∀ c ∈ (kind.extension o).toList, c ≠ '/' ∧ c ≠ '!')
    (segment : kind.extension o = "" ∨ lastSegment href.toList ≠ []) :
    Identifier.Prefixed (kind.loader a o) (kind.identifier href a o) ∧
      Identifier.Extended (kind.extension o) (kind.identifier href a o) := by
  rw [identifier_eq]
  have prefixed := Identifier.prefixed_withLoader word href
  constructor
  · unfold withExtension
    split
    · exact prefixed
    · exact (prefixed.append ".").append (kind.extension o)
  · rcases segment with none | segment
    · exact .inr none
    · rw [← Identifier.lastSegment_withLoader href (kind.loader a o)] at segment
      exact Identifier.extended_withExtension plain segment

/-- What is complete is not completed any more. -/
theorem identifier_of_complete (prefixed : Identifier.Prefixed (kind.loader a o) href)
    (extended : Identifier.Extended (kind.extension o) href) : kind.identifier href a o = href := by
  rw [identifier_eq, Identifier.withLoader_of_prefixed prefixed,
    Identifier.withExtension_of_extended extended]

end DirectiveKind

/-- A directive asks for its identifier, if it asks for anything. -/
theorem Directive.Becomes.asks {o : Options} {hooks : TagHooks} {tag : String} {a : Attributes}
    {rewrite : Rewrite} (becomes : Becomes o hooks tag a rewrite) {kind : DirectiveKind} {href : String}
    (filter : hooks.filterTag o a = some kind) (path : a.nonEmpty? "href" = some href) :
    rewrite.dependencies = [] ∨ rewrite.dependencies = [kind.identifier href a o] := by
  cases becomes with
  | rejected none => exact .inl rfl
  | required filter' other path' =>
    rw [filter] at filter'
    rw [path] at path'
    cases filter'
    cases path'
    exact .inr rfl
  | dropped => exact .inl rfl
  | included filter' path' holds =>
    rw [filter] at filter'
    rw [path] at path'
    cases filter'
    cases path'
    exact .inr rfl

/-- Where the loader that applies is a word, and what would get an extension has a name to get it behind,
an identifier is spelled out: it is its own identifier. Two tags with that loader, of which one is short
and the other spells the identifier out, make one dependency. -/
theorem DirectiveKind.identifier_identifier (kind : DirectiveKind) {href : String} (nonempty : href ≠ "")
    (a : Attributes) (o : Options)
    (word : ∀ c ∈ (kind.loader a o).toList, isWord c = true)
    (named : kind = .inclusion →
      (∀ c ∈ o.defaultInclusionExt.toList, c ≠ '/' ∧ c ≠ '!') ∧
        (o.defaultInclusionExt = "" ∨ lastSegment href.toList ≠ [])) :
    kind.identifier (kind.identifier href a o) a o = kind.identifier href a o ∧
    ∀ (hooks : TagHooks) (b : Attributes) (tag tag' : String) (short full : Rewrite),
      hooks.filterTag o a = some kind → a.nonEmpty? "href" = some href →
      hooks.filterTag o b = some kind → b.nonEmpty? "href" = some (kind.identifier href a o) →
      b.nonEmpty? "type" = a.nonEmpty? "type" →
      Directive.processTag o hooks tag a = .ok short → Directive.processTag o hooks tag' b = .ok full →
      short.dependencies ≠ [] →
      (Dependencies.ofList (short.dependencies ++ full.dependencies)).items =
        [kind.identifier href a o] := by
  have plain : ∀ c ∈ (kind.extension o).toList, c ≠ '/' ∧ c ≠ '!' := by
    cases kind with
    | inclusion => exact (named rfl).1
    | _ => simp [extension]
  have segment : kind.extension o = "" ∨ lastSegment href.toList ≠ [] := by
    cases kind with
    | inclusion => exact (named rfl).2
    | _ => exact .inl rfl
  obtain ⟨prefixed, extended⟩ := complete_identifier kind a word plain segment
  -- Of the attributes only the type plays a part, so this holds of the second tag as of the first.
  have again : ∀ b : Attributes, b.nonEmpty? "type" = a.nonEmpty? "type" →
      kind.identifier (kind.identifier href a o) b o = kind.identifier href a o := by
    intro b typed
    apply identifier_of_complete
    · rw [loader_congr typed]
      exact prefixed
    · exact extended
  refine ⟨again a rfl, ?_⟩
  intro hooks b tag tag' short full filter path filter' path' typed becomes becomes' asked
  have first := ((Directive.processTag_eq_ok_iff.1 becomes).asks filter path).resolve_left asked
  have second := (Directive.processTag_eq_ok_iff.1 becomes').asks filter' path'
  rw [again b typed] at second
  have filled : kind.identifier href a o ≠ "" := kind.identifier_ne_empty nonempty a o
  rw [first, Dependencies.items_ofList]
  rcases second with none | one
  · simp [none, filled, firsts]
  · simp [one, filled, firsts]

/-- A path to which the options add the loader and the extension, and the same path spelled out. -/
theorem DirectiveKind.identifier_identifier_parts :
    let short := Attributes.parse "rel=include href=parts/head"
    let full := Attributes.parse "href='view!parts/head.html' rel=x-include data-x=1"
    DirectiveKind.inclusion.identifier "view!parts/head.html" short .builtin = "view!parts/head.html" ∧
    ∃ r r', Directive.processTag .builtin Hooks.builtin.toTagHooks "<link short>" short = .ok r ∧
      Directive.processTag .builtin Hooks.builtin.toTagHooks "<link full>" full = .ok r' ∧
      (Dependencies.ofList (r.dependencies ++ r'.dependencies)).items = ["view!parts/head.html"] := by
  intro short full
  have spelled : DirectiveKind.inclusion.identifier "parts/head" short .builtin =
      "view!parts/head.html" := by decide +kernel
  have nonempty : "parts/head" ≠ "" := by decide
  obtain ⟨again, once⟩ := DirectiveKind.inclusion.identifier_identifier nonempty short .builtin
    (forall_mem_of_all (by decide +kernel))
    (fun _ => ⟨forall_mem_of_all (by decide +kernel), .inr (by decide +kernel)⟩)
  have included : ∀ (c : Attributes) (tag path : String), c.kind? = some .inclusion →
      c.nonEmpty? "href" = some path → c.get? "data-if" = none →
      Directive.processTag .builtin Hooks.builtin.toTagHooks tag c =
        .ok (.included (DirectiveKind.inclusion.identifier path c .builtin) c.data?) := by
    intro c tag path filter href unconditional
    apply Directive.processTag_eq_ok_iff.2
    refine .included filter href fun condition conditional => ?_
    rw [unconditional] at conditional
    cases conditional
  have path : short.nonEmpty? "href" = some "parts/head" := by decide +kernel
  have path' : full.nonEmpty? "href" = some "view!parts/head.html" := by decide +kernel
  have filter : short.kind? = some .inclusion := by decide +kernel
  have filter' : full.kind? = some .inclusion := by decide +kernel
  have one := included short "<link short>" _ filter path (by decide +kernel)
  have two := included full "<link full>" _ filter' path' (by decide +kernel)
  rw [spelled] at again once
  exact ⟨again, _, _, one, two, once Hooks.builtin.toTagHooks full _ _ _ _ filter path filter' path'
    (by decide +kernel) one two (List.cons_ne_nil _ _)⟩

example : DirectiveKind.inclusion.identifier "parts/" {} .builtin = "view!parts/.html" ∧
    DirectiveKind.inclusion.identifier "view!parts/.html" {} .builtin = "view!parts/.html.html" := by
  decide +kernel

end Transclude
