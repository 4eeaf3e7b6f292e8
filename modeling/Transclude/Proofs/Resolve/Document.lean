import Transclude.Proofs.Page.Splice
import Transclude.Proofs.Resolve.Substitute
import Transclude.Resolve.Basic

namespace Transclude

open Transclude.Text

/-- Whether an inclusion stays: its condition, if it has one, holds. -/
def Attributes.stays (a : Attributes) (o : Options) : Bool :=
  match a.get? "data-if" with
  | none => true
  | some condition =>
    match Condition.evaluate condition o with
    | .ok holds => holds
    | .error _ => false

/-- The inclusion that a tag comes to, if it is an inclusion tag that stays. -/
def Attributes.inclusion? (a : Attributes) (o : Options) : Option Inclusion :=
  match a.kind?, a.nonEmpty? "href" with
  | some .inclusion, some href =>
    if a.stays o then some ⟨DirectiveKind.inclusion.identifier href a o, a.data?⟩ else none
  | _, _ => none

namespace Round

def read (r : Round) : Attributes :=
  Attributes.parse (String.ofList r.attributes)

/-- What the tag is turned into: it stays if it is no directive, and a directive that comes to no
inclusion is taken out. -/
def piece (r : Round) (o : Options) : Piece :=
  match r.read.kind? with
  | none => .literal r.tag
  | some _ =>
    match r.read.inclusion? o with
    | some i => .marker i.name
    | none => .literal []

end Round

/-- What stands for a piece in the document. -/
def Piece.shown (shown : String → String) : Piece → List Char
  | literal text => text
  | marker identifier => (shown identifier).toList

namespace Pass

/-- The inclusions that the tags of a text come to, with repeats. -/
def surviving (o : Options) (rounds : List Round) : List Inclusion :=
  rounds.filterMap fun r => r.read.inclusion? o

/-- A text with what stands for each of its tags. -/
def document (o : Options) (shown : String → String) (rounds : List Round) (last : List Char) :
    List Char :=
  (rounds.flatMap fun r => r.before ++ (r.piece o).shown shown) ++ last

/-- Memory holds what the tags of a text ask for. What the first tag of an inclusion hands over makes the
inclusion show its content. -/
structure Supplied (m : Memory) (o : Options) (rounds : List Round) (last : List Char)
    (shown : String → String) : Prop where
  registered : ∀ identifier ∈ (page rounds last).dependencies.items,
    ∃ value, m.values.get? identifier = some value
  renders : ∀ i, ((surviving o rounds).find? fun j => j.name = i.name) = some i →
    ∃ value, m.values.get? i.name = some value ∧ value.render i.data = .ok (shown i.name)

/-- No part of a text and of what its inclusions show can be taken for a placeholder. -/
structure Unambiguous (o : Options) (rounds : List Round) (last : List Char)
    (shown : String → String) : Prop where
  plain : ∀ i ∈ surviving o rounds, Identifier.Plain i.name
  /-- The texts in front of the tags. -/
  segments : ∀ r ∈ rounds, AngleClosed r.before ∧
    Unmarked ((surviving o rounds).map Inclusion.name) r.before
  last : Unmarked ((surviving o rounds).map Inclusion.name) last
  rejected : ∀ r ∈ rounds, r.read.kind? = none →
    Unmarked ((surviving o rounds).map Inclusion.name) r.tag
  contents : ∀ i ∈ surviving o rounds, AngleClosed (shown i.name).toList ∧
    Unmarked ((surviving o rounds).map Inclusion.name) (shown i.name).toList

end Pass

theorem Attributes.kind?_eq_none_of_href {a : Attributes} (path : a.nonEmpty? "href" = none) :
    a.kind? = none := by
  rw [kind?, path]

/-- A tag becomes, by the built-in rules, what its attributes say. -/
private theorem Round.rewrite_eq {r : Round} {o : Options}
    (answer : Hooks.builtin.toPassHooks.answer o r.tag r.attributes = .ok r.rewrite) :
    r.rewrite.inclusion = r.read.inclusion? o ∧ r.rewrite.text.toList = (r.piece o).text := by
  have becomes : Directive.Becomes o Hooks.builtin.toTagHooks (String.ofList r.tag) r.read r.rewrite :=
    Directive.processTag_eq_ok_iff.1 answer
  generalize r.rewrite = rewrite at becomes
  cases becomes with
  | rejected unknown =>
    have kind : r.read.kind? = none := unknown.elim id Attributes.kind?_eq_none_of_href
    simp [Attributes.inclusion?, piece, kind, Rewrite.unchanged, Piece.text]
  | @required kind href filter other path =>
    have kind : r.read.kind? = some kind := filter
    have nothing : r.read.inclusion? o = none := by
      unfold Attributes.inclusion?
      split
      · next kind' href' here _ =>
        rw [kind] at here
        exact absurd (Option.some.inj here) other
      · rfl
    simp [piece, kind, nothing, Rewrite.dependency, Piece.text]
  | @dropped href condition filter path conditional fails =>
    have kind : r.read.kind? = some .inclusion := filter
    have fails : Condition.evaluate condition o = .ok false := fails
    have nothing : r.read.inclusion? o = none := by
      simp [Attributes.inclusion?, kind, path, Attributes.stays, conditional, fails]
    simp [piece, kind, nothing, Rewrite.removed, Piece.text]
  | @included href filter path holds =>
    have kind : r.read.kind? = some .inclusion := filter
    have stays : r.read.stays o = true := by
      unfold Attributes.stays
      cases conditional : r.read.get? "data-if" with
      | none => rfl
      | some condition =>
        have holds : Condition.evaluate condition o = .ok true := holds condition conditional
        simp [holds]
    simp [Attributes.inclusion?, piece, kind, path, stays, Rewrite.included, Piece.text]

namespace Pass

variable {o : Options} {text last : List Char} {rounds : List Round} {shown : String → String}

private theorem included_eq (answered : ∀ r ∈ rounds,
      Hooks.builtin.toPassHooks.answer o r.tag r.attributes = .ok r.rewrite) :
    included rounds = surviving o rounds := by
  induction rounds with
  | nil => rfl
  | cons r rounds ih =>
    have later := ih fun r member => answered r (List.mem_cons_of_mem _ member)
    have first := (Round.rewrite_eq (answered r List.mem_cons_self)).1
    rw [included_cons, later, first, surviving, surviving, List.filterMap_cons]
    cases r.read.inclusion? o <;> rfl

/-- The pieces of a text that is read to its end, but for the last one. -/
def pieces (o : Options) (rounds : List Round) : List Piece :=
  rounds.flatMap fun r => [.literal r.before, r.piece o]

private theorem written_eq (answered : ∀ r ∈ rounds,
      Hooks.builtin.toPassHooks.answer o r.tag r.attributes = .ok r.rewrite) :
    written rounds = (pieces o rounds).flatMap Piece.text := by
  induction rounds with
  | nil => rfl
  | cons r rounds ih =>
    have later := ih fun r member => answered r (List.mem_cons_of_mem _ member)
    have first := (Round.rewrite_eq (answered r List.mem_cons_self)).2
    rw [written_cons, later, first]
    simp [pieces, Piece.text]

private theorem document_eq (contents : List (String × String))
    (held : ∀ i ∈ surviving o rounds, contents.lookup i.name = some (shown i.name)) :
    document o shown rounds last = (pieces o rounds).flatMap (Piece.filled contents) ++ last := by
  have same : ∀ r ∈ rounds, (r.piece o).shown shown = (r.piece o).filled contents := by
    intro r member
    unfold Round.piece
    split
    · rfl
    · split
      · next i survives =>
        have known := held i (List.mem_filterMap.2 ⟨r, member, survives⟩)
        simp [Piece.shown, Piece.filled, known]
      · rfl
  rw [document, pieces, List.flatMap_assoc]
  congr 1
  refine List.flatMap_congr fun r member => ?_
  rw [same r member]
  simp [Piece.filled]

private theorem fits_pieces (unambiguous : Unambiguous o rounds last shown)
    (pass : Pass o Hooks.builtin.toPassHooks text rounds (.rest last)) :
    ∀ p ∈ pieces o rounds, p.Fits ((surviving o rounds).map Inclusion.name) := by
  intro p member
  obtain ⟨r, inRounds, inside⟩ := List.mem_flatMap.1 member
  rcases List.mem_cons.1 inside with rfl | inside
  · exact unambiguous.segments r inRounds
  · obtain rfl := List.mem_singleton.1 inside
    unfold Round.piece
    split
    · next rejected =>
      obtain ⟨-, -, name, whole⟩ := pass.of_mem inRounds
      have closed : AngleClosed r.tag := by
        rw [whole]
        exact angleClosed_of_ends _
      exact ⟨closed, unambiguous.rejected r inRounds rejected⟩
    · split
      · next i survives => exact unambiguous.plain i (List.mem_filterMap.2 ⟨r, inRounds, survives⟩)
      · exact ⟨angleClosed_of_not_mem List.not_mem_nil, unmarked_of_not_mem List.not_mem_nil _⟩

private theorem lookup_shown {inclusions : List Inclusion} {i : Inclusion}
    (member : i.name ∈ inclusions.map Inclusion.name) :
    (inclusions.map fun j => (j.name, shown j.name)).lookup i.name = some (shown i.name) := by
  induction inclusions with
  | nil => cases member
  | cons j inclusions ih =>
    rw [List.map_cons, List.lookup_cons]
    by_cases same : i.name = j.name
    · simp [same]
    · have apart : (i.name == j.name) = false := by simpa using same
      rw [apart]
      exact ih ((List.mem_cons.1 member).resolve_left same)

/-- The page of a text becomes its document. -/
theorem substitute_page {m : Memory} (pass : Pass o Hooks.builtin.toPassHooks text rounds (.rest last))
    (supplied : Supplied m o rounds last shown) (unambiguous : Unambiguous o rounds last shown)
    (state : List (List String)) :
    ((page rounds last).substitute m.loader state).1 =
      .ok (String.ofList (document o shown rounds last)) := by
  have answered : ∀ r ∈ rounds, Hooks.builtin.toPassHooks.answer o r.tag r.attributes = .ok r.rewrite :=
    fun r member => (pass.of_mem member).1
  have entries : (page rounds last).entries = firsts Inclusion.name (surviving o rounds) := by
    rw [entries_page, included_eq answered]
  have built : Pass o (Hooks.deciding Hooks.builtin.filterTag Hooks.builtin.processIf) text rounds
      (.rest last) := pass
  have renders : ∀ i ∈ (page rounds last).entries, ∃ value, m.values.get? i.name = some value ∧
      value.render i.data = .ok (shown i.name) := fun i member =>
    supplied.renders i (find?_eq_some_of_mem_firsts (entries ▸ member))
  rw [Page.substitute_of_registered state supplied.registered (built.wellFormed last).loaded renders]
  have survives : ∀ i ∈ (page rounds last).entries, i ∈ surviving o rounds := fun i member =>
    mem_of_mem_firsts (entries ▸ member)
  have known : ∀ i ∈ surviving o rounds,
      ((page rounds last).entries.map fun j => (j.name, shown j.name)).lookup i.name =
        some (shown i.name) := by
    intro i member
    refine lookup_shown ?_
    rw [entries]
    exact mem_map_firsts_iff.2 (List.mem_map_of_mem member)
  have plain : ∀ name ∈ (surviving o rounds).map Inclusion.name, Identifier.Plain name := by
    intro name member
    obtain ⟨i, inside, rfl⟩ := List.mem_map.1 member
    exact unambiguous.plain i inside
  have spliced := Piece.splice_pieces plain unambiguous.last
    ((page rounds last).entries.map fun j => (j.name, shown j.name))
    (fun entry member => by
      obtain ⟨i, inside, rfl⟩ := List.mem_map.1 member
      exact List.mem_map_of_mem (survives i inside))
    (fun entry member => by
      obtain ⟨i, inside, rfl⟩ := List.mem_map.1 member
      exact unambiguous.contents i (survives i inside))
    (fits_pieces unambiguous pass)
  rw [document_eq _ known, ← spliced, ← written_eq answered]
  rfl

end Pass

/-- A resource resolves to the document of its base text under the built-in rules, if memory holds all
that the text asks for and nothing in it can be taken for a placeholder. -/
theorem Request.resolve_eq_document {r : Request} {m : Memory} {o : Options} {base : String}
    {rounds : List Round} {last : List Char} {shown : String → String} (state : List (List String))
    (builtin : r.hooks = Hooks.builtin)
    (layered : Options.layered r.defaults r.host (Suffix.split r.resource).2 = .ok o)
    (held : m.values.get? (r.identifier o) = some (.text base))
    (pass : Pass o Hooks.builtin.toPassHooks base.toList rounds (.rest last))
    (supplied : Pass.Supplied m o rounds last shown)
    (unambiguous : Pass.Unambiguous o rounds last shown) :
    (r.resolve m.loader state).1 = .ok (String.ofList (Pass.document o shown rounds last)) := by
  have settings : r.settings = .ok ⟨o, Hooks.builtin⟩ := by
    rw [settings, layered, builtin]
    rfl
  have loaded : m.load [r.identifier o] = .ok [.text base] := by
    have fetched : m.fetch (r.identifier o) = .ok (.text base) := by rw [Memory.fetch, held]
    simp [Memory.load, List.mapM_cons, fetched, bind, Except.bind, pure, Except.pure]
  have parsed : parse o Hooks.builtin.toPassHooks base = .ok (Pass.page rounds last) :=
    parse_of_pass rfl pass
  have paged : r.page ⟨o, Hooks.builtin⟩ [.text base] = .ok (Pass.page rounds last) := parsed
  simp only [resolve, settings, Memory.loader, loaded, paged]
  exact Pass.substitute_page pass supplied unambiguous _

namespace Pass

private theorem inclusions_mixed : mixed.map (fun r => r.read.inclusion? .builtin) =
    [none, none, none, some ⟨"view!f.g", some [("n", "1")]⟩, some ⟨"view!f.g", some [("n", "2")]⟩] := by
  have each := congrArg (List.map fun a => Attributes.inclusion? a .builtin) read_mixed
  rw [List.map_map] at each
  exact each.trans (by cbv)

private theorem surviving_mixed : surviving .builtin mixed =
    [⟨"view!f.g", some [("n", "1")]⟩, ⟨"view!f.g", some [("n", "2")]⟩] := by
  have kept := congrArg (List.filterMap id) inclusions_mixed
  rwa [List.filterMap_map] at kept

private theorem document_mixed :
    document .builtin (fun _ => "1") mixed ['i'] = "a<link rel=icon href=c>1h1i".toList := by
  have kinds := congrArg (List.map Attributes.kind?) read_mixed
  rw [List.map_map] at kinds
  have kinds : mixed.map (fun r => r.read.kind?) =
      [some .style, none, some .inclusion, some .inclusion, some .inclusion] := kinds.trans (by cbv)
  have inclusions := inclusions_mixed
  simp only [mixed, List.map_cons, List.map_nil, List.cons.injEq, and_true] at kinds inclusions
  obtain ⟨sheet, icon, absent, first, second⟩ := kinds
  obtain ⟨-, -, dropped, one, two⟩ := inclusions
  simp only [document, mixed, List.flatMap_cons, List.flatMap_nil, Round.piece, sheet, icon, absent,
    first, second, dropped, one, two]
  decide +kernel

private theorem unambiguous_mixed : Unambiguous .builtin mixed ['i'] fun _ => "1" := by
  have plain : ∀ r ∈ mixed, '<' ∉ r.before := by decide
  have clean : ∀ r ∈ mixed, ∀ name ∈ ["view!f.g", "view!f.g"],
      ¬ (Identifier.placeholder name).toList <:+: r.tag := by decide +kernel
  constructor
  · rw [surviving_mixed]
    simp [Identifier.Plain]
  · exact fun r member => ⟨angleClosed_of_not_mem (plain r member),
      unmarked_of_not_mem (plain r member) _⟩
  · exact unmarked_of_not_mem (by decide) _
  · rw [surviving_mixed]
    exact fun r member _ => clean r member
  · exact fun _ _ => ⟨angleClosed_of_not_mem (by decide), unmarked_of_not_mem (by decide) _⟩

end Pass

/-- What an inclusion shows is what its first tag hands over. -/
theorem Request.resolve_mixed :
    let given : Loaded := .callable fun data => .ok (.text ((data.getD []).lookup "n" |>.getD ""))
    (Request.resolve ⟨.builtin, .empty, Hooks.builtin, "p.html"⟩
      (Memory.ofList [("text!p.html", .text Pass.mixedText), ("css!b", .text "-"),
        ("view!f.g", given)]).loader []).1 = .ok "a<link rel=icon href=c>1h1i" := by
  have stored : ∀ base given, (Memory.ofList [("text!p.html", .text base), ("css!b", .text "-"),
      ("view!f.g", given)]).values =
        [("css!b", .text "-"), ("text!p.html", .text base), ("view!f.g", given)] := by
    intro base given
    cbv
  intro given
  let m := Memory.ofList [("text!p.html", .text Pass.mixedText), ("css!b", .text "-"), ("view!f.g", given)]
  have supplied : Pass.Supplied m .builtin Pass.mixed ['i'] fun _ => "1" := by
    constructor
    · intro identifier member
      have listed : (Pass.page Pass.mixed ['i']).dependencies.items = ["css!b", "view!f.g"] := by
        decide +kernel
      rw [listed] at member
      rcases (by simpa using member : identifier = "css!b" ∨ identifier = "view!f.g") with rfl | rfl
      · exact ⟨.text "-", by simp [m, stored, Dict.get?]⟩
      · exact ⟨given, by simp [m, stored, Dict.get?]⟩
    · rw [Pass.surviving_mixed]
      intro i first
      have named : i.name = "view!f.g" := by
        rcases (by simpa using List.mem_of_find?_eq_some first) with rfl | rfl <;> rfl
      rw [named] at first
      obtain rfl := Option.some.inj first
      exact ⟨given, by simp [m, stored, Dict.get?], rfl⟩
  have layered : Options.layered .builtin .empty (Suffix.split "p.html").2 = .ok .builtin := rfl
  have held : m.values.get? "text!p.html" = some (.text Pass.mixedText) := by
    simp [m, stored, Dict.get?]
  have resolved := Request.resolve_eq_document [] rfl layered held Pass.pass_mixed supplied
    Pass.unambiguous_mixed (r := ⟨.builtin, .empty, Hooks.builtin, "p.html"⟩)
  rw [resolved, Pass.document_mixed]
  rfl

end Transclude
