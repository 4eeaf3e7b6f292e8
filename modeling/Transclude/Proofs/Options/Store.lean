import Mathlib.Data.List.Induction
import Transclude.Options.Defaults
import Transclude.Options.Suffix
import Transclude.Proofs.Options.Assignment

/-!
# Options as a store

Options are changed one setting or one run of settings at a time, and a change can be refused. Whatever
was changed before, a name has the value that was set last, a refusal leaves what was there, and the names
of recognized options are no other options' names (`Options.Lawful`). The defaults of a process are such
options as well: those that all accepted replacements since the last reset make (`Defaults.Lawful`).
-/

namespace Transclude

namespace Options

inductive Change where
  | set (name : String) (value : Setting)
  | setRaw (name raw : String)
  | apply (values : List (String × Setting))
  | applySuffix (suffix : String)

/-- What a change leaves. -/
def change (o : Options) : Change → Applied
  | .set name value => o.set name value
  | .setRaw name raw => o.setRaw name raw
  | .apply values => o.apply values
  | .applySuffix suffix => o.applySuffix suffix

/-- The options that changes lead to from the built-in ones, whether they are refused or not. -/
inductive Reachable : Options → Prop where
  | builtin : Reachable builtin
  | change {o : Options} (reached : Reachable o) (c : Change) : Reachable (o.change c).options

/-- The options that settings lead to one after the other, if none of them is refused. -/
def settle {α : Type} (step : Options → α → Applied) (o : Options) (items : List α) :
    Except ConfigError Options :=
  items.foldlM (fun o item => (step o item).result) o

/-- What settings that are made one after the other leave: the effect of all of them or, if one is
refused, of those in front of it. -/
inductive Effect {α : Type} (step : Options → α → Applied) (o : Options) (items : List α) :
    Applied → Prop where
  | whole {o' : Options} (made : settle step o items = .ok o') : Effect step o items ⟨o', none⟩
  | stopped {before after : List α} {item : α} {o' : Options} {error : ConfigError}
      (split : items = before ++ item :: after) (made : settle step o before = .ok o')
      (refused : (step o' item).stopped = some error) : Effect step o items ⟨o', some error⟩

/-- What holds of options as a store of values by name. -/
structure Lawful (o : Options) : Prop where
  /-- No other option has the name of a recognized one, and each has one value. -/
  unrecognized : ∀ entry ∈ o.extra, ∀ key : OptionKey, key.name ≠ entry.1
  sorted : o.extra.Sorted
  /-- Only a value of the wrong kind is refused. -/
  accepts : ∀ name value, (o.change (.set name value)).stopped = none ↔ WellTyped name value
  /-- A setting that is made is read back, and no other name is affected. -/
  set : ∀ name value, (o.change (.set name value)).stopped = none →
    (o.change (.set name value)).options.get? name = some (value.kept name) ∧
      ∀ other, other ≠ name → (o.change (.set name value)).options.get? other = o.get? other
  /-- A setting that is refused leaves everything as it was. -/
  refused : ∀ name value error, (o.change (.set name value)).stopped = some error →
    (o.change (.set name value)).options = o
  refusedRaw : ∀ name raw error, (o.change (.setRaw name raw)).stopped = some error →
    (o.change (.setRaw name raw)).options = o
  /-- A run of settings leaves what those in front of the first refusal make of the options. -/
  apply : ∀ values, Effect (fun o (entry : String × Setting) => o.set entry.1 entry.2) o values
    (o.change (.apply values))
  applySuffix : ∀ suffix, Effect (fun o (pair : String × String) => o.setRaw pair.1 pair.2) o
    (Suffix.pairs suffix) (o.change (.applySuffix suffix))

section
variable {α : Type} {step : Options → α → Applied} {o o' : Options} {item : α}

theorem run_cons_of_made (made : step o item = ⟨o', none⟩) (items : List α) :
    run step o (item :: items) = run step o' items := by
  rw [run, made]

theorem run_cons_of_refused {error : ConfigError} (refused : step o item = ⟨o', some error⟩)
    (items : List α) : run step o (item :: items) = ⟨o', some error⟩ := by
  rw [run, refused]

theorem settle_cons_of_made (made : step o item = ⟨o', none⟩) (items : List α) :
    settle step o (item :: items) = settle step o' items := by
  rw [settle, List.foldlM_cons, made]
  rfl

theorem Effect.cons {items : List α} {a : Applied} (made : step o item = ⟨o', none⟩)
    (effect : Effect step o' items a) : Effect step o (item :: items) a := by
  cases effect with
  | whole later => exact .whole (by rw [settle_cons_of_made made, later])
  | @stopped before after other _ _ split later refused =>
    have whole : item :: items = (item :: before) ++ other :: after := by rw [split, List.cons_append]
    exact .stopped whole (by rw [settle_cons_of_made made, later]) refused

/-- A run makes the settings in front of the first one that is refused and no others, since a refusal
leaves everything as it was. -/
theorem effect_run
    (unchanged : ∀ o item o' error, step o item = ⟨o', some error⟩ → o' = o) (o : Options)
    (items : List α) : Effect step o items (run step o items) := by
  induction items generalizing o with
  | nil => exact .whole rfl
  | cons item items ih =>
    rcases made : step o item with ⟨o', _ | error⟩
    · rw [run_cons_of_made made]
      exact (ih o').cons made
    · rw [run_cons_of_refused made]
      obtain rfl := unchanged _ _ _ _ made
      exact .stopped (List.nil_append _).symm rfl (by rw [made])

/-- What every setting keeps, made or refused, is kept by a run. -/
theorem run_keeps {P : Options → Prop} (keeps : ∀ o item, P o → P (step o item).options)
    (holds : P o) (items : List α) : P (run step o items).options := by
  induction items generalizing o with
  | nil => exact holds
  | cons item items ih =>
    have kept := keeps o item holds
    rcases made : step o item with ⟨o', _ | error⟩
    all_goals rw [made] at kept
    · rw [run_cons_of_made made]
      exact ih kept
    · rw [run_cons_of_refused made]
      exact kept

end

section
variable {o o' : Options} {name : String} {value : Setting}

/-- The other options have names of their own, each once. -/
def Apart (o : Options) : Prop :=
  (∀ entry ∈ o.extra, ∀ key : OptionKey, key.name ≠ entry.1) ∧ o.extra.Sorted

theorem eq_of_refused {error : ConfigError} (refused : o.set name value = ⟨o', some error⟩) : o' = o :=
  (set_eq_refused_iff.1 refused).1

theorem apart_set (apart : o.Apart) (name : String) (value : Setting) :
    (o.set name value).options.Apart := by
  cases known : OptionKey.ofName? name with
  | none =>
    rw [set_of_unknown known]
    refine ⟨fun entry member key => ?_, Dict.sorted_insert apart.2 name value⟩
    rcases Dict.mem_insert member with rfl | older
    · exact OptionKey.ofName?_eq_none_iff.1 known key
    · exact apart.1 entry older key
  | some key =>
    -- A recognized option has a field of its own, so that the others stay as they are.
    obtain rfl := OptionKey.ofName?_eq_some_iff.1 known
    rw [set_name]
    split
    · next assigned =>
      rw [Apart, extra_of_assign? assigned]
      exact apart
    · exact apart

/-- Every change is made of settings by name, whatever the values are read off. -/
theorem apart_change (apart : o.Apart) (c : Change) : (o.change c).options.Apart := by
  cases c with
  | set name value => exact apart_set apart name value
  | setRaw name raw => exact apart_set apart name (coerce name raw)
  | apply values =>
    exact run_keeps (P := Apart) (fun _ entry kept => apart_set kept entry.1 entry.2) apart values
  | applySuffix suffix =>
    exact run_keeps (P := Apart) (fun _ pair kept => apart_set kept pair.1 _) apart _

theorem Reachable.apart (reached : Reachable o) : o.Apart := by
  induction reached with
  | builtin => exact ⟨fun _ member => absurd member List.not_mem_nil, List.Pairwise.nil⟩
  | change _ c ih => exact apart_change ih c

theorem stopped_set_iff : (o.set name value).stopped = none ↔ WellTyped name value := by
  rcases made : o.set name value with ⟨o', _ | error⟩
  · exact iff_of_true rfl (wellTyped_of_set made)
  · obtain ⟨-, key, named, refused, -⟩ := set_eq_refused_iff.1 made
    exact iff_of_false nofun fun typed => refused (typed key named)

theorem set_of_stopped {stopped : Option ConfigError} (ended : (o.set name value).stopped = stopped) :
    o.set name value = ⟨(o.set name value).options, stopped⟩ := by
  rw [← ended]

theorem Reachable.lawful (reached : Reachable o) : o.Lawful where
  unrecognized := reached.apart.1
  sorted := reached.apart.2
  accepts _ _ := stopped_set_iff
  set name value made := by
    have found := get?_of_set (set_of_stopped made)
    refine ⟨by rw [Options.change, found, if_pos rfl], fun other apart => ?_⟩
    rw [Options.change, found, if_neg (Ne.symm apart)]
  refused _ _ _ ended := eq_of_refused (set_of_stopped ended)
  refusedRaw _ _ _ ended := eq_of_refused (set_of_stopped ended)
  apply values := effect_run (fun _ _ _ _ => eq_of_refused) o values
  applySuffix suffix := effect_run (fun _ _ _ _ => eq_of_refused) o (Suffix.pairs suffix)

end

end Options

/-! ## Defaults -/

instance (name : String) (value : Setting) : Decidable (WellTyped name value) :=
  decidable_of_iff (∀ key ∈ OptionKey.all, key.name = name → value.kind ∈ key.kinds)
    ⟨fun typed key => typed key (by cases key <;> decide), fun typed key _ => typed key⟩

namespace Defaults

inductive Change where
  | replace (name : String) (value : Setting)
  | reset

/-- What a change leaves, and why it was refused if it was. -/
def change (d : Defaults) : Change → Defaults × Option ConfigError
  | .replace name value => d.replace name value
  | .reset => (d.reset, none)

/-- The defaults after changes, whether they were refused or not. -/
def after (changes : List Change) : Defaults :=
  changes.foldl (fun d c => (d.change c).1) initial

/-- The replacements that were tried since the last reset, in order. -/
def sinceReset (changes : List Change) : List (String × Setting) :=
  changes.foldl (fun tried c =>
    match c with
    | .replace name value => tried ++ [(name, value)]
    | .reset => []) []

/-- The replacements since the last reset that are not refused, in order. -/
def made (changes : List Change) : List (String × Setting) :=
  (sinceReset changes).filter fun entry => WellTyped entry.1 entry.2

/-- What holds of the defaults that changes lead to. -/
structure Lawful (changes : List Change) (d : Defaults) : Prop where
  options : d.current.Lawful
  /-- Only a value of the wrong kind is refused. -/
  accepts : ∀ name value, (d.replace name value).2 = none ↔ WellTyped name value
  /-- A replacement that is made is read back, and no other name is affected. -/
  replaced : ∀ name value, (d.replace name value).2 = none →
    (d.replace name value).1.current.get? name = some (value.kept name) ∧
      ∀ other, other ≠ name → (d.replace name value).1.current.get? other = d.current.get? other
  /-- A replacement that is refused leaves everything as it was. -/
  refused : ∀ name value error, (d.replace name value).2 = some error → (d.replace name value).1 = d
  /-- The defaults are what the replacements since the last reset make of the built-in options, those
  left out that were refused. -/
  history : Options.settle (fun o (entry : String × Setting) => o.set entry.1 entry.2) Options.builtin
    (made changes) = .ok d.current

section
variable {d : Defaults} {name : String} {value : Setting}

theorem replace_of_made {o : Options} (made : d.current.set name value = ⟨o, none⟩) :
    d.replace name value = (⟨o⟩, none) := by
  rw [replace, made]

theorem replace_of_refused {o : Options} {error : ConfigError}
    (refused : d.current.set name value = ⟨o, some error⟩) : d.replace name value = (d, some error) := by
  rw [replace, refused]

theorem snd_replace : (d.replace name value).2 = (d.current.set name value).stopped := by
  rcases made : d.current.set name value with ⟨o, _ | error⟩
  · rw [replace_of_made made]
  · rw [replace_of_refused made]

/-- The defaults become what the setting leaves, also where it is refused. -/
theorem current_replace : (d.replace name value).1.current = (d.current.set name value).options := by
  rcases made : d.current.set name value with ⟨o, _ | error⟩
  · rw [replace_of_made made]
  · rw [replace_of_refused made]
    exact (Options.eq_of_refused made).symm

theorem eq_of_refused {error : ConfigError} (refused : (d.replace name value).2 = some error) :
    (d.replace name value).1 = d := by
  rcases made : d.current.set name value with ⟨o, _ | other⟩
  · rw [replace_of_made made] at refused
    cases refused
  · rw [replace_of_refused made]

theorem reachable_replace (reached : d.current.Reachable) :
    (d.replace name value).1.current.Reachable := by
  rw [current_replace]
  exact reached.change (.set name value)

end

theorem after_append (changes : List Change) (c : Change) :
    after (changes ++ [c]) = ((after changes).change c).1 := by
  rw [after, List.foldl_append]
  rfl

theorem reachable_after (changes : List Change) : (after changes).current.Reachable := by
  induction changes using List.reverseRecOn with
  | nil => exact .builtin
  | append_singleton changes c ih =>
    rw [after_append]
    cases c with
    | replace name value => exact reachable_replace ih
    | reset => exact .builtin

theorem made_reset (changes : List Change) : made (changes ++ [.reset]) = [] := by
  rw [made, sinceReset, List.foldl_append]
  rfl

theorem made_replace (changes : List Change) (name : String) (value : Setting) :
    made (changes ++ [.replace name value]) =
      if WellTyped name value then made changes ++ [(name, value)] else made changes := by
  have tried : sinceReset (changes ++ [.replace name value]) = sinceReset changes ++ [(name, value)] := by
    rw [sinceReset, List.foldl_append]
    rfl
  rw [made, tried, List.filter_append]
  by_cases typed : WellTyped name value
  · rw [if_pos typed, List.filter_cons_of_pos (by simpa using typed)]
    rfl
  · rw [if_neg typed, List.filter_cons_of_neg (by simpa using typed)]
    exact List.append_nil _

theorem history_after (changes : List Change) :
    Options.settle (fun o (entry : String × Setting) => o.set entry.1 entry.2) Options.builtin
      (made changes) = .ok (after changes).current := by
  induction changes using List.reverseRecOn with
  | nil => rfl
  | append_singleton changes c ih =>
    rw [after_append]
    cases c with
    | reset =>
      rw [made_reset]
      rfl
    | replace name value =>
      rw [made_replace, change, current_replace]
      by_cases typed : WellTyped name value
      · have set := Options.set_of_stopped (Options.stopped_set_iff (o := (after changes).current).2 typed)
        rw [if_pos typed, Options.settle, List.foldlM_append, ← Options.settle, ih]
        change ((after changes).current.set name value).result >>= pure = _
        rw [set]
        rfl
      · rcases set : (after changes).current.set name value with ⟨o, _ | error⟩
        · exact absurd (Options.wellTyped_of_set set) typed
        · rw [if_neg typed, ih, Options.eq_of_refused set]

end Defaults

/-- Whatever options are changed to, refused changes included, they are a lawful store; and so are the
defaults of a process after any replacements and resets. -/
theorem Options.changes_lawful :
    (∀ o : Options, o.Reachable → o.Lawful) ∧
      ∀ changes : List Defaults.Change, Defaults.Lawful changes (Defaults.after changes) := by
  refine ⟨fun o reached => reached.lawful, fun changes => ?_⟩
  have lawful := (Defaults.reachable_after changes).lawful
  refine ⟨lawful, fun name value => ?_, fun name value made => ?_,
    fun name value error => Defaults.eq_of_refused, Defaults.history_after changes⟩
  · rw [Defaults.snd_replace, stopped_set_iff]
  · rw [Defaults.snd_replace] at made
    rw [Defaults.current_replace]
    exact lawful.set name value made

/-- Options after a suffix that stops at its second setting, and defaults that were reset and then refused
a value. -/
theorem Options.changes_lawful_refused :
    let o : Options := { builtin with directiveTag := ["a", "b"], extra := [("theme", .text "dark")] }
    let changes : List Defaults.Change := [.replace "inclusionLoader" (.text "tpl"), .reset,
      .replace "theme" (.text "dark"), .replace "strict" (.text "nope")]
    o.Reachable ∧
      (∃ o', o.set "directiveTag" (.text "tpl") = ⟨o', none⟩ ∧
        o'.get? "directiveTag" = some (.list ["tpl"]) ∧ o'.get? "theme" = some (.text "dark")) ∧
      o.set "cssLoader" (.boolean true) = ⟨o, some (.invalidValue .cssLoader (.boolean true))⟩ ∧
      o.setRaw "strict" "maybe" = ⟨o, some (.invalidValue .strict (.text "maybe"))⟩ ∧
      Defaults.made changes = [("theme", .text "dark")] ∧
      builtin.set "theme" (.text "dark") = ⟨(Defaults.after changes).current, none⟩ := by
  intro o changes
  have reached : o.Reachable := (Reachable.builtin.change (.set "theme" (.text "dark"))).change
    (.applySuffix "directiveTag=a,b;strict=maybe;theme=light")
  have lawful := changes_lawful.1 o reached
  have made := (lawful.accepts "directiveTag" (.text "tpl")).2 (by decide)
  obtain ⟨read, others⟩ := lawful.set _ _ made
  have history := (changes_lawful.2 changes).history
  have refused := lawful.refused "cssLoader" (.boolean true) _ rfl
  have refusedRaw := lawful.refusedRaw "strict" "maybe" _ rfl
  refine ⟨reached, ⟨_, set_of_stopped made, read, ?_⟩, ?_, ?_, rfl, ?_⟩
  · exact (others "theme" (by decide)).trans rfl
  · exact congrArg (Applied.mk · _) refused
  · exact congrArg (Applied.mk · _) refusedRaw
  · rw [show Defaults.made changes = [("theme", .text "dark")] from rfl] at history
    exact congrArg (Applied.mk · none) (Except.ok.inj history)

end Transclude
