import Mathlib.Logic.Basic
import Transclude.Loader.Memory
import Transclude.Proofs.Text.Occurrence
import Transclude.Resolve.Basic

/-!
# What a call asks its loader for

A call asks for its base document and then, in one more batch, for what the page of that document needs.
Two loaders that answer alike are asked alike (`Request.resolve_alike`), so it changes nothing to record
the batches, and calls one after the other on one memory go as each of them goes alone.
-/

namespace Transclude

open Transclude.Text

variable {σ τ : Type}

/-- From related states two loaders give the same answers and go on to related states. -/
def Loader.Alike (l : Loader σ) (l' : Loader τ) (related : σ → τ → Prop) : Prop :=
  ∀ batch s t, related s t →
    (l.load batch s).1 = (l'.load batch t).1 ∧ related (l.load batch s).2 (l'.load batch t).2

section
variable {l : Loader σ} {l' : Loader τ} {related : σ → τ → Prop} {s : σ} {t : τ}

theorem Page.substitute_alike (alike : l.Alike l' related) (p : Page) (start : related s t) :
    (p.substitute l s).1 = (p.substitute l' t).1 ∧
      related (p.substitute l s).2 (p.substitute l' t).2 := by
  unfold substitute
  by_cases idle : p.dependencies.items.isEmpty
  · simpa [idle] using start
  · obtain ⟨same, next⟩ := alike p.dependencies.items s t start
    simp only [idle]
    cases first : l.load p.dependencies.items s with
    | mk answer s' =>
      cases second : l'.load p.dependencies.items t with
      | mk answer' t' =>
        rw [first, second] at same next
        obtain rfl : answer = answer' := same
        cases answer <;> exact ⟨rfl, next⟩

theorem Request.resolve_alike (alike : l.Alike l' related) (r : Request) (start : related s t) :
    (r.resolve l s).1 = (r.resolve l' t).1 ∧ related (r.resolve l s).2 (r.resolve l' t).2 := by
  unfold resolve
  cases r.settings with
  | error error => exact ⟨rfl, start⟩
  | ok settings =>
    obtain ⟨same, next⟩ := alike [r.identifier settings.options] s t start
    simp only
    cases first : l.load [r.identifier settings.options] s with
    | mk answer s' =>
      cases second : l'.load [r.identifier settings.options] t with
      | mk answer' t' =>
        rw [first, second] at same next
        obtain rfl : answer = answer' := same
        cases answer with
        | error error => exact ⟨rfl, next⟩
        | ok loaded =>
          simp only
          cases r.page settings loaded with
          | error error => exact ⟨rfl, next⟩
          | ok page => exact page.substitute_alike alike next

end

theorem Loader.load_recorded (l : Loader σ) (batch : List String) (state : σ)
    (log : List (List String)) :
    l.recorded.load batch (state, log) =
      ((l.load batch state).1, (l.load batch state).2, log ++ [batch]) := rfl

/-- A page asks for what it needs in one batch, if it needs anything. -/
theorem Page.substitute_recorded (p : Page) (l : Loader σ) (state : σ) (log : List (List String)) :
    (p.substitute l.recorded (state, log)).2.2 =
      log ++ if p.dependencies.items = [] then [] else [p.dependencies.items] := by
  unfold substitute
  by_cases idle : p.dependencies.items = []
  · simp [idle]
  · simp only [List.isEmpty_iff, idle, if_false, Loader.load_recorded]
    cases (l.load p.dependencies.items state).1 <;> rfl

theorem Loaded.text?_eq_some_iff {value : Loaded} {text : String} :
    value.text? = some text ↔ value = .text text := by
  constructor
  · intro plain
    unfold text? at plain
    split at plain
    · cases plain
      rfl
    · cases plain
  · rintro rfl
    rfl

namespace Request

/-- The batches that a call asks a loader for, in order. -/
def batches (r : Request) (l : Loader σ) (state : σ) : List (List String) :=
  (r.resolve l.recorded (state, [])).2.2

/-- A call goes the same whether its batches are recorded or not, and the record grows by them. -/
theorem resolve_recorded (r : Request) (l : Loader σ) (state : σ) (log : List (List String)) :
    r.resolve l.recorded (state, log) =
      ((r.resolve l state).1, (r.resolve l state).2, log ++ r.batches l state) := by
  -- The loader itself says what the call comes to, a record that starts empty what the call adds.
  have plain : l.Alike l.recorded fun s recorded => recorded.1 = s := by
    rintro batch s ⟨s, log⟩ rfl
    exact ⟨rfl, rfl⟩
  have grown : l.recorded.Alike l.recorded fun longer shorter =>
      longer.1 = shorter.1 ∧ longer.2 = log ++ shorter.2 := by
    rintro batch ⟨s, longer⟩ ⟨s', shorter⟩ ⟨same, record⟩
    obtain rfl : s = s' := same
    obtain rfl : longer = log ++ shorter := record
    exact ⟨rfl, rfl, List.append_assoc ..⟩
  obtain ⟨answer, state'⟩ := r.resolve_alike plain (s := state) (t := (state, log)) rfl
  obtain ⟨-, -, record⟩ := r.resolve_alike grown (s := (state, log)) (t := (state, []))
    ⟨rfl, (List.append_nil log).symm⟩
  exact Prod.ext answer.symm (Prod.ext state' record)

/-- On a memory a call answers the same whatever was asked before, and the record of the memory grows by
the batches of the call. -/
theorem resolve_memory (r : Request) (m : Memory) (log : List (List String)) :
    r.resolve m.loader log = ((r.resolve m.loader []).1, log ++ r.batches m.loader []) := by
  -- A memory keeps a record of its own, which no answer depends on.
  have own : m.loader.Alike m.loader.recorded fun requests recorded => requests = log ++ recorded.2 := by
    rintro batch requests ⟨s, recorded⟩ rfl
    exact ⟨rfl, List.append_assoc ..⟩
  obtain ⟨answer, record⟩ := r.resolve_alike own (s := log) (t := ([], []))
    (List.append_nil log).symm
  rw [resolve_recorded] at answer
  exact Prod.ext answer record

/-! ## The batches of one call -/

/-- The name of a resource ends before the first `!`. -/
def name (r : Request) : String :=
  String.ofList (r.resource.toList.takeWhile (· ≠ '!'))

theorem split_fst (resource : String) :
    (Suffix.split resource).1 = String.ofList (resource.toList.takeWhile (· ≠ '!')) := by
  have passed : ∀ front behind : List Char, '!' ∉ front →
      (front ++ behind).takeWhile (· ≠ '!') = front ++ behind.takeWhile (· ≠ '!') := by
    intro front behind absent
    refine List.takeWhile_append_of_pos fun c member => ?_
    simpa using fun same : c = '!' => absent (same ▸ member)
  unfold Suffix.split
  cases split : splitOnce? '!' resource.toList with
  | none =>
    have whole := passed resource.toList [] (splitOnce?_eq_none_iff.1 split)
    rw [List.append_nil, List.takeWhile_nil, List.append_nil] at whole
    rw [whole, String.ofList_toList]
  | some parts =>
    obtain ⟨whole, absent⟩ := splitOnce?_eq_some_iff.1 split
    rw [whole, passed _ _ absent]
    simp

theorem identifier_eq (r : Request) (o : Options) :
    r.identifier o = "text!" ++ Identifier.withExtension r.name o.defaultExt := by
  rw [identifier, split_fst, name]

theorem page_eq_ok_iff {r : Request} {settings : Settings} {loaded : List Loaded} {page : Page} :
    r.page settings loaded = .ok page ↔ ∃ text rest, loaded = .text text :: rest ∧
      settings.hooks.parse settings.options settings.hooks.toPassHooks text = .ok page := by
  unfold Request.page
  constructor
  · intro parsed
    split at parsed
    · cases parsed
    · next base rest =>
      split at parsed
      · cases parsed
      · next text plain => exact ⟨text, rest, by rw [Loaded.text?_eq_some_iff.1 plain], parsed⟩
  · rintro ⟨text, rest, rfl, parsed⟩
    exact parsed

/-- What a call asks for behind its base document: what the page of the base document needs, if the first
value is a text of which the rule for pages makes a page that needs something. -/
inductive AsksFor (r : Request) (l : Loader σ) (state : σ) (o : Options) : List String → Prop where
  | page {text : String} {rest : List Loaded} {page : Page}
      (loaded : (l.load ["text!" ++ Identifier.withExtension r.name o.defaultExt] state).1 =
        .ok (.text text :: rest))
      (parsed : r.hooks.parse o r.hooks.toPassHooks text = .ok page)
      (needs : page.dependencies.items ≠ []) :
      AsksFor r l state o page.dependencies.items

section
variable {r : Request} {l : Loader σ} {state : σ}

theorem asksFor_iff {o : Options} {batch : List String} :
    r.AsksFor l state o batch ↔ ∃ loaded page, (l.load [r.identifier o] state).1 = .ok loaded ∧
      r.page ⟨o, r.hooks⟩ loaded = .ok page ∧ page.dependencies.items ≠ [] ∧
      page.dependencies.items = batch := by
  rw [identifier_eq]
  constructor
  · rintro ⟨loaded, parsed, needs⟩
    exact ⟨_, _, loaded, page_eq_ok_iff.2 ⟨_, _, rfl, parsed⟩, needs, rfl⟩
  · rintro ⟨loaded, page, first, made, needs, rfl⟩
    obtain ⟨text, rest, rfl, parsed⟩ := page_eq_ok_iff.1 made
    exact .page first parsed needs

theorem batches_of_refused {error : ConfigError}
    (refused : Options.layered r.defaults r.host (Suffix.split r.resource).2 = .error error) :
    r.batches l state = [] := by
  simp only [batches, resolve, settings, refused, Except.map]

/-- A call whose options are not refused asks for its base document first and at most once more. -/
theorem batches_of_layered {o : Options}
    (accepted : Options.layered r.defaults r.host (Suffix.split r.resource).2 = .ok o) :
    ∃ second : Option (List String),
      r.batches l state =
        ["text!" ++ Identifier.withExtension r.name o.defaultExt] :: second.toList ∧
      ∀ batch, second = some batch ↔ r.AsksFor l state o batch := by
  have settled : r.settings = .ok ⟨o, r.hooks⟩ := by
    rw [settings, accepted]
    rfl
  simp only [← identifier_eq, asksFor_iff, batches, resolve, settled, Loader.load_recorded]
  cases (l.load [r.identifier o] state).1 with
  | error error => exact ⟨none, rfl, by simp⟩
  | ok loaded =>
    cases made : r.page ⟨o, r.hooks⟩ loaded with
    | error error => exact ⟨none, by simp [made], by simp [made]⟩
    | ok page =>
      simp only [made, Page.substitute_recorded]
      by_cases idle : page.dependencies.items = []
      · exact ⟨none, by simp [idle], by simp [made, idle]⟩
      · exact ⟨some page.dependencies.items, by simp [idle], by simp [made, idle]⟩

end

/-- No batch asks for anything twice, or for nothing. -/
theorem batches_distinct {r : Request} {l : Loader σ} {state : σ} :
    ∀ batch ∈ r.batches l state, batch.Nodup ∧ "" ∉ batch := by
  intro batch member
  cases options : Options.layered r.defaults r.host (Suffix.split r.resource).2 with
  | error error => simp [batches_of_refused options] at member
  | ok o =>
    obtain ⟨second, whole, asks⟩ := batches_of_layered options
    rw [whole] at member
    rcases List.mem_cons.1 member with rfl | later
    · simp
    · obtain ⟨_, _, _⟩ := (asks batch).1 (by simpa using later)
      exact ⟨Dependencies.nodup _, Dependencies.nonempty _⟩

section
variable {r : Request} {l : Loader σ} {state : σ} (deliver : String → τ → τ) (receiver : τ)

theorem resolveWith_of_ok {document : String} (resolved : (r.resolve l state).1 = .ok document) :
    r.resolveWith l deliver state receiver =
      (.ok (), (r.resolve l state).2, deliver document receiver) := by
  cases whole : r.resolve l state with
  | mk answer next =>
    rw [whole] at resolved
    obtain rfl : answer = .ok document := resolved
    rw [resolveWith, whole]

theorem resolveWith_of_error {error : ResolveError} (failed : (r.resolve l state).1 = .error error) :
    r.resolveWith l deliver state receiver = (.error error, (r.resolve l state).2, receiver) := by
  cases whole : r.resolve l state with
  | mk answer next =>
    rw [whole] at failed
    obtain rfl : answer = .error error := failed
    rw [resolveWith, whole]

end

end Request

/-! ## One call after the other -/

namespace Resolver

/-- Resolves one resource after the other. The defaults can change from call to call. -/
def resolveEach (v : Resolver σ) :
    List (Options × String) → σ → List (Except ResolveError String) × σ
  | [], state => ([], state)
  | (defaults, resource) :: calls, state =>
    let (answer, state) := v.resolve defaults resource state
    let (answers, state) := v.resolveEach calls state
    (answer :: answers, state)

theorem resolveAll_eq_resolveEach (v : Resolver σ) (defaults : Options) (resources : List String)
    (state : σ) :
    v.resolveAll defaults resources state =
      v.resolveEach (resources.map fun resource => (defaults, resource)) state := by
  induction resources generalizing state with
  | nil => rfl
  | cons resource resources ih =>
    simp only [resolveAll, List.map_cons, resolveEach, ih]

/-- Calls on one memory answer as each of them alone does, and ask one after the other for what each of
them alone asks for. -/
theorem resolveEach_memory (m : Memory) (host : Host) (hooks : Hooks) (calls : List (Options × String))
    (log : List (List String)) :
    resolveEach ⟨m.loader, host, hooks⟩ calls log =
      (calls.map fun call => (Request.resolve ⟨call.1, host, hooks, call.2⟩ m.loader []).1,
        log ++ calls.flatMap fun call => Request.batches ⟨call.1, host, hooks, call.2⟩ m.loader []) := by
  induction calls generalizing log with
  | nil => simp [resolveEach]
  | cons call calls ih =>
    simp only [resolveEach, resolve, Request.resolve_memory _ m log, ih, List.map_cons,
      List.flatMap_cons, List.append_assoc]

theorem resolveAll_memory (m : Memory) (host : Host) (hooks : Hooks) (defaults : Options)
    (resources : List String) (log : List (List String)) :
    resolveAll ⟨m.loader, host, hooks⟩ defaults resources log =
      (resources.map fun resource => (Request.resolve ⟨defaults, host, hooks, resource⟩ m.loader []).1,
        log ++ resources.flatMap fun resource =>
          Request.batches ⟨defaults, host, hooks, resource⟩ m.loader []) := by
  rw [resolveAll_eq_resolveEach, resolveEach_memory, List.map_map, List.flatMap_map]
  rfl

end Resolver

/-- A call whose options are refused asks for nothing. Any other asks for its base document, then for what
the page of that document needs, and for no more. The document is handed over once if there is one, and
calls one after the other on one memory do what each of them does alone. -/
theorem Request.resolve_requests (r : Request) (l : Loader σ) (state : σ) :
    ((∀ log, r.resolve l.recorded (state, log) =
        ((r.resolve l state).1, (r.resolve l state).2, log ++ r.batches l state)) ∧
      (∀ error, Options.layered r.defaults r.host (Suffix.split r.resource).2 = .error error →
        r.batches l state = []) ∧
      (∀ o, Options.layered r.defaults r.host (Suffix.split r.resource).2 = .ok o →
        ∃ second : Option (List String),
          r.batches l state =
            ["text!" ++ Identifier.withExtension r.name o.defaultExt] :: second.toList ∧
          ∀ batch, second = some batch ↔ r.AsksFor l state o batch) ∧
      ∀ batch ∈ r.batches l state, batch.Nodup ∧ "" ∉ batch) ∧
    (∀ {τ : Type} (deliver : String → τ → τ) (receiver : τ),
      (∀ document, (r.resolve l state).1 = .ok document →
        r.resolveWith l deliver state receiver =
          (.ok (), (r.resolve l state).2, deliver document receiver)) ∧
      (∀ error, (r.resolve l state).1 = .error error →
        r.resolveWith l deliver state receiver = (.error error, (r.resolve l state).2, receiver))) ∧
    (∀ (m : Memory) (host : Host) (hooks : Hooks) (calls : List (Options × String))
      (log : List (List String)),
      Resolver.resolveEach ⟨m.loader, host, hooks⟩ calls log =
        (calls.map fun call => (resolve ⟨call.1, host, hooks, call.2⟩ m.loader []).1,
          log ++ calls.flatMap fun call => batches ⟨call.1, host, hooks, call.2⟩ m.loader [])) ∧
    ∀ (m : Memory) (host : Host) (hooks : Hooks) (defaults : Options) (resources : List String)
      (log : List (List String)),
      Resolver.resolveAll ⟨m.loader, host, hooks⟩ defaults resources log =
        (resources.map fun resource => (resolve ⟨defaults, host, hooks, resource⟩ m.loader []).1,
          log ++ resources.flatMap fun resource =>
            batches ⟨defaults, host, hooks, resource⟩ m.loader []) := by
  refine ⟨⟨r.resolve_recorded l state, fun _ => batches_of_refused, fun _ => batches_of_layered,
    batches_distinct⟩, fun deliver receiver => ⟨?_, ?_⟩, Resolver.resolveEach_memory,
    Resolver.resolveAll_memory⟩
  · intro document resolved
    exact resolveWith_of_ok deliver receiver resolved
  · intro error failed
    exact resolveWith_of_error deliver receiver failed

/-- The rules under which every tag is taken out and needs the same. -/
def Hooks.needing (identifier : String) : Hooks :=
  { Hooks.builtin with processTag := fun _ _ _ _ => .ok (.dependency identifier) }

/-- A call whose options are refused, and one for a page that needs one thing twice. -/
theorem Request.resolve_requests_twice :
    let m := Memory.ofList [("text!p.html", .text "<link x>-<link y>"), ("a", .text "b")]
    (∀ batch ∈ batches ⟨.builtin, .empty, .needing "a", "p"⟩ m.loader [], batch.Nodup ∧ "" ∉ batch) ∧
      Resolver.resolveEach ⟨m.loader, .empty, .needing "a"⟩
        [(.builtin, "p!strict=maybe"), (.builtin, "p")] [] =
        ([.error (.config (.invalidValue .strict (.text "maybe"))), .ok "-"],
          [["text!p.html"], ["a"]]) := by
  have accepted : Options.layered .builtin .empty (Suffix.split "p").2 = .ok .builtin := by rfl
  have refused : Options.layered .builtin .empty (Suffix.split "p!strict=maybe").2 =
      .error (.invalidValue .strict (.text "maybe")) := by rfl
  have parsed : (Hooks.needing "a").parse .builtin (Hooks.needing "a").toPassHooks "<link x>-<link y>" =
      .ok ⟨"-", .ofList ["a"], none⟩ := by rfl
  have loaded : ((Memory.ofList [("text!p.html", .text "<link x>-<link y>"),
      ("a", .text "b")]).loader.load ["text!p.html"] []).1 = .ok [.text "<link x>-<link y>"] := by rfl
  have failed : (resolve ⟨.builtin, .empty, .needing "a", "p!strict=maybe"⟩ (Memory.ofList
      [("text!p.html", .text "<link x>-<link y>"), ("a", .text "b")]).loader []).1 =
        .error (.config (.invalidValue .strict (.text "maybe"))) := by rfl
  have answer : (resolve ⟨.builtin, .empty, .needing "a", "p"⟩ (Memory.ofList
      [("text!p.html", .text "<link x>-<link y>"), ("a", .text "b")]).loader []).1 = .ok "-" := by rfl
  intro m
  have idle : batches ⟨.builtin, .empty, .needing "a", "p!strict=maybe"⟩ m.loader [] = [] :=
    (resolve_requests _ m.loader []).1.2.1 _ refused
  obtain ⟨⟨-, -, asked, distinct⟩, -, sequence, -⟩ :=
    resolve_requests ⟨.builtin, .empty, .needing "a", "p"⟩ m.loader []
  obtain ⟨second, whole, asks⟩ := asked .builtin accepted
  have needed : AsksFor ⟨.builtin, .empty, .needing "a", "p"⟩ m.loader [] .builtin
      (⟨"-", .ofList ["a"], none⟩ : Page).dependencies.items :=
    .page loaded parsed (List.cons_ne_nil _ _)
  rw [(asks _).2 needed] at whole
  refine ⟨distinct, ?_⟩
  rw [sequence]
  refine Prod.ext (congrArg₂ (fun a b => [a, b]) failed answer) ?_
  simp only [List.flatMap_cons, List.flatMap_nil, idle, whole]
  rfl

end Transclude
