import Mathlib
import Transclude.Proofs.Page.Contract
import Transclude.Proofs.Page.Splice
import Transclude.Resolve.Substitute

namespace Transclude

section
variable {ε α β : Type} {f : α → Except ε β} {as : List α}

theorem mapM_eq_ok_iff {bs : List β} :
    as.mapM f = .ok bs ↔ List.Forall₂ (fun a b => f a = .ok b) as bs := by
  induction as generalizing bs with
  | nil => cases bs <;> simp [pure, Except.pure]
  | cons a as ih =>
    rw [List.mapM_cons]
    cases first : f a with
    | error error => cases bs <;> simp [first, bind, Except.bind]
    | ok b =>
      cases later : as.mapM f with
      | error error => cases bs <;> simp [← ih, first, later, bind, Except.bind]
      | ok rest =>
        cases bs <;> simp [← ih, first, later, bind, Except.bind, pure, Except.pure]

/-- A run fails with the error of the first item that fails. -/
theorem mapM_eq_error_iff {error : ε} :
    as.mapM f = .error error ↔ ∃ before a after, as = before ++ a :: after ∧
      (∀ b ∈ before, ∃ c, f b = .ok c) ∧ f a = .error error := by
  induction as with
  | nil => simp [pure, Except.pure]
  | cons a as ih =>
    rw [List.mapM_cons]
    cases first : f a with
    | error other =>
      constructor
      · rintro ⟨⟩
        exact ⟨[], a, as, rfl, by simp, first⟩
      · rintro ⟨before, b, after, whole, passed, fails⟩
        cases before with
        | nil =>
          obtain ⟨rfl, -⟩ := List.cons.inj whole
          rw [first] at fails
          cases fails
          rfl
        | cons c before =>
          obtain ⟨rfl, -⟩ := List.cons.inj whole
          obtain ⟨_, holds⟩ := passed a List.mem_cons_self
          rw [first] at holds
          cases holds
    | ok b =>
      have same : (do let b ← Except.ok (ε := ε) b; let bs ← as.mapM f; pure (b :: bs)) = .error error ↔
          as.mapM f = .error error := by
        cases as.mapM f <;> simp [bind, Except.bind, pure, Except.pure]
      rw [same, ih]
      constructor
      · rintro ⟨before, c, after, rfl, passed, fails⟩
        refine ⟨a :: before, c, after, rfl, ?_, fails⟩
        intro d member
        rcases List.mem_cons.1 member with rfl | inside
        · exact ⟨b, first⟩
        · exact passed d inside
      · rintro ⟨before, c, after, whole, passed, fails⟩
        cases before with
        | nil =>
          obtain ⟨rfl, -⟩ := List.cons.inj whole
          rw [first] at fails
          cases fails
        | cons d before =>
          obtain ⟨rfl, rfl⟩ := List.cons.inj whole
          exact ⟨before, c, after, rfl, fun e member => passed e (List.mem_cons_of_mem _ member), fails⟩

end

/-- A search for what only the items from a place on are finds the one in that place. -/
theorem find?_eq_getElem? {α : Type} {p : α → Bool} {as : List α} {place : Nat}
    (ahead : ∀ a ∈ as.take place, p a = false) (behind : ∀ a ∈ as.drop place, p a = true) :
    as.find? p = as[place]? := by
  calc as.find? p = (as.take place ++ as.drop place).find? p := by rw [List.take_append_drop]
    _ = (as.drop place).find? p := by
        rw [List.find?_append, List.find?_eq_none.2 (by simpa using ahead)]
        rfl
    _ = (as.drop place).head? := by
        cases rest : as.drop place with
        | nil => rfl
        | cons a later => exact List.find?_cons_of_pos (behind a (by simp [rest]))
    _ = as[place]? := List.head?_drop

section
variable {α β : Type} [DecidableEq α] {names : List α} {values : List β} {name : α}

theorem lookup_zip_eq_none_iff :
    (names.zip values).lookup name = none ↔ name ∉ names.take values.length := by
  induction names generalizing values with
  | nil => simp
  | cons other names ih =>
    cases values with
    | nil => simp
    | cons value values =>
      rw [List.zip_cons_cons, List.lookup_cons]
      by_cases same : name = other
      · simp [same]
      · have apart : (name == other) = false := by simpa using same
        simp [apart, ih, same]

/-- Of names that are all different each stands beside the value in its own place. -/
theorem lookup_zip_eq_some_iff (distinct : names.Nodup) {value : β} :
    (names.zip values).lookup name = some value ↔
      ∃ place : Nat, names[place]? = some name ∧ values[place]? = some value := by
  induction names generalizing values with
  | nil => simp
  | cons other names ih =>
    obtain ⟨fresh, distinct'⟩ := List.nodup_cons.1 distinct
    cases values with
    | nil => simp
    | cons first values =>
      rw [List.zip_cons_cons, List.lookup_cons]
      by_cases same : name = other
      · subst same
        simp only [BEq.rfl, Option.some.injEq]
        constructor
        · rintro rfl
          exact ⟨0, rfl, rfl⟩
        · rintro ⟨place, listed, held⟩
          cases place with
          | zero => simpa using held
          | succ place => exact absurd (List.mem_of_getElem? (by simpa using listed)) fresh
      · have apart : (name == other) = false := by simpa using same
        rw [apart, ih distinct']
        constructor
        · rintro ⟨place, listed, held⟩
          exact ⟨place + 1, by simpa using listed, by simpa using held⟩
        · rintro ⟨place, listed, held⟩
          cases place with
          | zero => exact absurd (by simpa using listed.symm) same
          | succ place => exact ⟨place, by simpa using listed, by simpa using held⟩

/-- The first of such names that has no value stands where the values end. -/
theorem find?_lookup_zip (distinct : names.Nodup) :
    (names.find? fun name => ((names.zip values).lookup name).isNone) = names[values.length]? := by
  refine find?_eq_getElem? (fun name member => ?_) (fun name member => ?_)
  · cases held : (names.zip values).lookup name with
    | none => exact absurd member (lookup_zip_eq_none_iff.1 held)
    | some value => rfl
  · rw [Option.isNone_iff_eq_none, lookup_zip_eq_none_iff]
    exact fun early => List.disjoint_take_drop distinct (Nat.le_refl _) early member

end

namespace Page

/-- The inclusion shows a text, if the values stand for the names in order. -/
def Shows (names : List String) (values : List Loaded) (i : Inclusion) (shown : String) : Prop :=
  ∃ (place : Nat) (value : Loaded), names[place]? = some i.name ∧ values[place]? = some value ∧
    value.render i.data = .ok shown

/-- The inclusion fails, if the values stand for the names in order. -/
inductive Fails (names : List String) (values : List Loaded) (i : Inclusion) : ResolveError → Prop where
  /-- The inclusion is none of those that are loaded. -/
  | unlisted (absent : i.name ∉ names) : Fails names values i (.missingValue i.name)
  /-- The value of the inclusion does not render. -/
  | unrendered {place : Nat} {value : Loaded} {text : String} (listed : names[place]? = some i.name)
      (held : values[place]? = some value) (refused : value.render i.data = .error text) :
      Fails names values i (.render i.name text)

section
variable {names : List String} {values : List Loaded} {i : Inclusion} (distinct : names.Nodup)
include distinct

theorem content_eq_ok_iff {entry : String × String} :
    content (names.zip values) i = .ok entry ↔
      ∃ shown, Shows names values i shown ∧ (i.name, shown) = entry := by
  unfold content
  cases held : (names.zip values).lookup i.name with
  | none =>
    constructor
    · rintro ⟨⟩
    · rintro ⟨shown, ⟨place, value, listed, loaded, -⟩, -⟩
      rw [(lookup_zip_eq_some_iff distinct).2 ⟨place, listed, loaded⟩] at held
      cases held
  | some value =>
    obtain ⟨place, listed, loaded⟩ := (lookup_zip_eq_some_iff distinct).1 held
    constructor
    · intro run
      cases rendered : value.render i.data with
      | error text => simp [rendered] at run
      | ok shown =>
        simp only [rendered, Except.ok.injEq] at run
        exact ⟨shown, ⟨place, value, listed, loaded, rendered⟩, run⟩
    · rintro ⟨shown, ⟨place', value', listed', loaded', rendered⟩, rfl⟩
      have same := (lookup_zip_eq_some_iff distinct).2 ⟨place', listed', loaded'⟩
      obtain rfl : value = value' := Option.some.inj (held.symm.trans same)
      simp [rendered]

theorem content_eq_error_iff (enough : names.length ≤ values.length) {error : ResolveError} :
    content (names.zip values) i = .error error ↔ Fails names values i error := by
  unfold content
  cases held : (names.zip values).lookup i.name with
  | none =>
    have absent : i.name ∉ names := by
      have early := lookup_zip_eq_none_iff.1 held
      rwa [List.take_of_length_le enough] at early
    constructor
    · rintro ⟨⟩
      exact .unlisted absent
    · intro fails
      cases fails with
      | unlisted => rfl
      | unrendered listed => exact absurd (List.mem_of_getElem? listed) absent
  | some value =>
    obtain ⟨place, listed, loaded⟩ := (lookup_zip_eq_some_iff distinct).1 held
    constructor
    · intro run
      cases rendered : value.render i.data with
      | ok shown => simp [rendered] at run
      | error text =>
        simp only [rendered, Except.error.injEq] at run
        subst run
        exact .unrendered listed loaded rendered
    · intro fails
      cases fails with
      | unlisted absent => exact absurd (List.mem_of_getElem? listed) absent
      | unrendered listed' loaded' refused =>
        have same := (lookup_zip_eq_some_iff distinct).2 ⟨_, listed', loaded'⟩
        obtain rfl := Option.some.inj (held.symm.trans same)
        simp [refused]

theorem mapM_content_eq_ok_iff {inclusions : List Inclusion} {contents : List (String × String)} :
    inclusions.mapM (content (names.zip values)) = .ok contents ↔
      ∃ shown, List.Forall₂ (Shows names values) inclusions shown ∧
        contents = (inclusions.map Inclusion.name).zip shown := by
  rw [mapM_eq_ok_iff]
  induction inclusions generalizing contents with
  | nil =>
    rw [List.forall₂_nil_left_iff]
    constructor
    · rintro rfl
      exact ⟨[], .nil, rfl⟩
    · rintro ⟨shown, -, rfl⟩
      rfl
  | cons i inclusions ih =>
    constructor
    · intro each
      obtain ⟨entry, rest, first, later, rfl⟩ := List.forall₂_cons_left_iff.1 each
      obtain ⟨text, shows, rfl⟩ := (content_eq_ok_iff distinct).1 first
      obtain ⟨shown, all, rfl⟩ := ih.1 later
      exact ⟨text :: shown, .cons shows all, rfl⟩
    · rintro ⟨shown, each, rfl⟩
      obtain ⟨text, rest, shows, later, rfl⟩ := List.forall₂_cons_left_iff.1 each
      exact .cons ((content_eq_ok_iff distinct).2 ⟨text, shows, rfl⟩) (ih.2 ⟨rest, later, rfl⟩)

end

section
variable {p : Page} {values : List Loaded}

/-- With a value for every dependency it is the inclusions that decide. -/
theorem fill_of_complete (complete : (p.dependencies.items.find? fun name =>
      ((p.dependencies.items.zip values).lookup name).isNone) = none) :
    p.fill values =
      match p.entries.mapM (content (p.dependencies.items.zip values)) with
      | .error error => .error error
      | .ok contents => .ok (splice contents p.resource) := by
  simp only [fill, complete]
  unfold entries
  cases p.inclusions <;> rfl

theorem fill_of_missing {missing : String}
    (ends : p.dependencies.items[values.length]? = some missing) :
    p.fill values = .error (.missingValue missing) := by
  simp only [fill, find?_lookup_zip p.dependencies.nodup, ends]

theorem fill_of_enough (enough : p.dependencies.items.length ≤ values.length) :
    p.fill values =
      match p.entries.mapM (content (p.dependencies.items.zip values)) with
      | .error error => .error error
      | .ok contents => .ok (splice contents p.resource) :=
  fill_of_complete (by rw [find?_lookup_zip p.dependencies.nodup, List.getElem?_eq_none enough])

theorem fill_eq_error_iff (enough : p.dependencies.items.length ≤ values.length)
    {error : ResolveError} :
    p.fill values = .error error ↔ ∃ before i after, p.entries = before ++ i :: after ∧
      (∀ j ∈ before, ∃ shown, Shows p.dependencies.items values j shown) ∧
      Fails p.dependencies.items values i error := by
  have run : p.fill values = .error error ↔
      p.entries.mapM (content (p.dependencies.items.zip values)) = .error error := by
    rw [fill_of_enough enough]
    cases p.entries.mapM (content (p.dependencies.items.zip values)) <;> simp
  have shows : ∀ j, (∃ entry, content (p.dependencies.items.zip values) j = .ok entry) ↔
      ∃ shown, Shows p.dependencies.items values j shown := by
    intro j
    simp only [content_eq_ok_iff p.dependencies.nodup]
    exact ⟨fun ⟨_, shown, shows, _⟩ => ⟨shown, shows⟩, fun ⟨shown, shows⟩ => ⟨_, shown, shows, rfl⟩⟩
  simp only [run, mapM_eq_error_iff, shows, content_eq_error_iff p.dependencies.nodup enough]

theorem fill_eq_ok_iff (enough : p.dependencies.items.length ≤ values.length) {document : String} :
    p.fill values = .ok document ↔
      ∃ shown, List.Forall₂ (Shows p.dependencies.items values) p.entries shown ∧
        Spliced ((p.entries.map Inclusion.name).zip shown) p.resource.toList document.toList := by
  simp only [← splice_eq_iff]
  rw [fill_of_enough enough]
  cases run : p.entries.mapM (content (p.dependencies.items.zip values)) with
  | error error =>
    constructor
    · rintro ⟨⟩
    · rintro ⟨shown, all, -⟩
      rw [(mapM_content_eq_ok_iff p.dependencies.nodup).2 ⟨shown, all, rfl⟩] at run
      cases run
  | ok contents =>
    constructor
    · rintro ⟨⟩
      obtain ⟨shown, all, rfl⟩ := (mapM_content_eq_ok_iff p.dependencies.nodup).1 run
      exact ⟨shown, all, rfl⟩
    · rintro ⟨shown, all, rfl⟩
      rw [(mapM_content_eq_ok_iff p.dependencies.nodup).2 ⟨shown, all, rfl⟩] at run
      cases run
      rfl

end

/-- A page that needs nothing is its text, and the loader is not asked. Any other page fails if its batch
does, and for the first dependency without a value if the answer is too short. With an answer that is long
enough it fails for its first inclusion that is no dependency or does not render, and if there is none it
becomes its text with what its inclusions show put in. -/
theorem substitute_cases {σ : Type} (p : Page) (l : Loader σ) (state : σ) :
    let names := p.dependencies.items
    (names = [] → p.substitute l state = (.ok p.resource, state) ∧
      ∀ log, p.substitute l.recorded (state, log) = (.ok p.resource, state, log)) ∧
    (names ≠ [] → ∀ next,
      (∀ error, l.load names state = (.error error, next) →
        p.substitute l state = (.error (.load error), next)) ∧
      ∀ values, l.load names state = (.ok values, next) →
        (∀ short : values.length < names.length,
          p.substitute l state = (.error (.missingValue names[values.length]), next)) ∧
        (names.length ≤ values.length →
          (∀ error, p.substitute l state = (.error error, next) ↔
            ∃ before i after, p.entries = before ++ i :: after ∧
              (∀ j ∈ before, ∃ shown, Shows names values j shown) ∧ Fails names values i error) ∧
          ∀ document, p.substitute l state = (.ok document, next) ↔
            ∃ shown, List.Forall₂ (Shows names values) p.entries shown ∧
              Spliced ((p.entries.map Inclusion.name).zip shown) p.resource.toList
                document.toList)) := by
  intro names
  refine ⟨fun idle => ?_, fun needs next => ⟨fun error refused => ?_, fun values answered => ?_⟩⟩
  · have none : p.dependencies.items = [] := idle
    simp [substitute, none]
  · have asks : ¬ p.dependencies.items.isEmpty = true := by simpa using needs
    have loaded : l.load p.dependencies.items state = (.error error, next) := refused
    simp only [substitute, asks, loaded]
    rfl
  · have asks : ¬ p.dependencies.items.isEmpty = true := by simpa using needs
    have loaded : l.load p.dependencies.items state = (.ok values, next) := answered
    have run : p.substitute l state = (p.fill values, next) := by
      simp only [substitute, asks, loaded]
      rfl
    rw [run]
    refine ⟨fun short => ?_, fun enough => ⟨fun error => ?_, fun document => ?_⟩⟩
    · rw [fill_of_missing (List.getElem?_eq_getElem short)]
    · rw [← fill_eq_error_iff enough, Prod.mk.injEq, and_iff_left rfl]
    · rw [Prod.mk.injEq, and_iff_left rfl]
      exact fill_eq_ok_iff enough

/-- Answers to a page with two dependencies: one that is too short, one with a value that does not
render, and one with a value to spare. A page with an inclusion that is no dependency fails for that
one. -/
theorem substitute_cases_short_long :
    let b := "<link rel=\"x-include\" href=\"b\">"
    let a := "<link rel=\"x-include\" href=\"a\">"
    let p : Page := ⟨b ++ "-" ++ a ++ b, .ofList ["a", "b", "a"], some (.ofList [⟨"b", none⟩, ⟨"a", none⟩])⟩
    let q : Page := { p with inclusions := some (.ofList [⟨"b", none⟩, ⟨"c", none⟩]) }
    let answering : List Loaded → Loader Unit := fun values => ⟨fun _ state => (.ok values, state)⟩
    p.substitute (answering [.text "x"]) () = (.error (.missingValue "b"), ()) ∧
      p.substitute (answering [.callable fun _ => .error "no", .text "y"]) () =
        (.error (.render "a" "no"), ()) ∧
      p.substitute (answering [.text "x", .text a, .text "z"]) () = (.ok "x-xx", ()) ∧
      q.substitute (answering [.text "x", .text "y"]) () = (.error (.missingValue "c"), ()) := by
  intro b a p q answering
  have needs : p.dependencies.items ≠ [] := List.cons_ne_nil _ _
  have cases := fun (p : Page) (needs : p.dependencies.items ≠ []) values =>
    ((substitute_cases p (answering values) ()).2 needs ()).2 values rfl
  refine ⟨?_, ?_, ?_, ?_⟩
  · exact (cases p needs [.text "x"]).1 (Nat.lt_succ_self 1)
  · refine (((cases p needs [.callable fun _ => .error "no", .text "y"]).2 (Nat.le_refl 2)).1 _).2 ?_
    have listed : p.dependencies.items[0]? = some "a" := rfl
    have held : [Loaded.callable fun _ => .error "no", .text "y"][0]? =
        some (.callable fun _ => .error "no") := rfl
    refine ⟨[⟨"b", none⟩], ⟨"a", none⟩, [], rfl, ?_, .unrendered listed held rfl⟩
    intro j member
    obtain rfl := List.mem_singleton.1 member
    exact ⟨"y", 1, .text "y", rfl, rfl, rfl⟩
  · refine (((cases p needs [.text "x", .text a, .text "z"]).2 (Nat.le_succ 2)).2 _).2 ?_
    refine ⟨[a, "x"], ?_, ?_⟩
    · exact .cons ⟨1, .text a, rfl, rfl, rfl⟩ (.cons ⟨0, .text "x", rfl, rfl, rfl⟩ .nil)
    · exact splice_eq_iff.1 (by decide +kernel)
  · refine (((cases q needs [.text "x", .text "y"]).2 (Nat.le_refl 2)).1 _).2 ?_
    refine ⟨[⟨"b", none⟩], ⟨"c", none⟩, [], rfl, ?_, .unlisted (by decide)⟩
    intro j member
    obtain rfl := List.mem_singleton.1 member
    exact ⟨"y", 1, .text "y", rfl, rfl, rfl⟩

end Page

end Transclude
