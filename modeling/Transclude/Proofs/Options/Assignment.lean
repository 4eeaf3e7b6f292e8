import Transclude.Options.Basic

namespace Transclude

namespace OptionKey

theorem name_injective {key other : OptionKey} (same : key.name = other.name) : key = other := by
  have found := ofName?_name key
  rw [same, ofName?_name] at found
  exact (Option.some.inj found).symm

theorem ofName?_eq_none_iff {name : String} :
    ofName? name = none ↔ ∀ key : OptionKey, key.name ≠ name := by
  constructor
  · rintro unknown key rfl
    rw [ofName?_name] at unknown
    cases unknown
  · intro other
    cases known : ofName? name with
    | none => rfl
    | some key => exact absurd (ofName?_eq_some_iff.1 known) (other key)

/-- The kinds of value that a recognized option takes. -/
def kinds : OptionKey → List String
  | .directiveTag => ["string", "list"]
  | .strict => ["boolean"]
  | _ => ["string"]

end OptionKey

/-- No recognized option is given a value of a kind that it does not take. -/
def WellTyped (name : String) (value : Setting) : Prop :=
  ∀ key : OptionKey, key.name = name → value.kind ∈ key.kinds

theorem wellTyped_name_iff {key : OptionKey} {value : Setting} :
    WellTyped key.name value ↔ value.kind ∈ key.kinds := by
  constructor
  · intro typed
    exact typed key rfl
  · intro taken other same
    rwa [OptionKey.name_injective same]

/-- The value under which a setting is looked up: one text for the tag names is a list of one. -/
def Setting.kept (name : String) (value : Setting) : Setting :=
  match OptionKey.ofName? name, value with
  | some .directiveTag, .text s => .list [s]
  | _, value => value

namespace Options

variable {o o' : Options} {key : OptionKey} {name : String} {value : Setting}

theorem assign?_eq_none_iff : o.assign? key value = none ↔ value.kind ∉ key.kinds := by
  cases key <;> cases value <;> simp [assign?, Setting.kind, OptionKey.kinds]

theorem field_of_assign? (assigned : o.assign? key value = some o') (other : OptionKey) :
    o'.field other = if key = other then value.kept key.name else o.field other := by
  unfold assign? at assigned
  split at assigned
  all_goals cases assigned
  all_goals cases other <;> simp [field, Setting.kept, OptionKey.ofName?_name]

theorem extra_of_assign? (assigned : o.assign? key value = some o') : o'.extra = o.extra := by
  unfold assign? at assigned
  split at assigned
  all_goals cases assigned
  all_goals rfl

theorem set_name (o : Options) (key : OptionKey) (value : Setting) :
    o.set key.name value =
      match o.assign? key value with
      | some o' => ⟨o', none⟩
      | none => ⟨o, some (.invalidValue key value)⟩ := by
  cases made : o.assign? key value <;> simp only [set, OptionKey.ofName?_name, made]

theorem set_of_unknown (unknown : OptionKey.ofName? name = none) (o : Options) (value : Setting) :
    o.set name value = ⟨{ o with extra := o.extra.insert name value }, none⟩ := by
  rw [set, unknown]

theorem get?_name (o : Options) (key : OptionKey) : o.get? key.name = some (o.field key) := by
  rw [get?, OptionKey.ofName?_name]

theorem get?_of_unknown (unknown : OptionKey.ofName? name = none) (o : Options) :
    o.get? name = o.extra.get? name := by
  rw [get?, unknown]

/-- A setting is refused exactly if it gives a recognized option a value that the option does not take,
and then it leaves everything as it was. -/
theorem set_eq_refused_iff {error : ConfigError} :
    o.set name value = ⟨o', some error⟩ ↔
      o' = o ∧ ∃ key : OptionKey, key.name = name ∧ value.kind ∉ key.kinds ∧
        error = .invalidValue key value := by
  cases known : OptionKey.ofName? name with
  | none =>
    rw [set_of_unknown known]
    constructor
    · nofun
    · rintro ⟨-, key, named, -⟩
      exact absurd named (OptionKey.ofName?_eq_none_iff.1 known key)
  | some key =>
    obtain rfl := OptionKey.ofName?_eq_some_iff.1 known
    rw [set_name]
    constructor
    · intro refused
      split at refused
      · cases refused
      · next unassigned =>
        cases refused
        exact ⟨rfl, key, rfl, assign?_eq_none_iff.1 unassigned, rfl⟩
    · rintro ⟨rfl, other, same, refused, rfl⟩
      obtain rfl := OptionKey.name_injective same
      rw [assign?_eq_none_iff.2 refused]

theorem wellTyped_of_set (made : o.set name value = ⟨o', none⟩) : WellTyped name value := by
  rintro key rfl
  refine Decidable.byContradiction fun refused => ?_
  rw [set_eq_refused_iff.2 ⟨rfl, key, rfl, refused, rfl⟩] at made
  cases made

/-- A setting that is made changes the value of its name and of no other. -/
theorem get?_of_set (made : o.set name value = ⟨o', none⟩) (k : String) :
    o'.get? k = if name = k then some (value.kept name) else o.get? k := by
  cases known : OptionKey.ofName? name with
  | none =>
    rw [set_of_unknown known] at made
    cases made
    cases found : OptionKey.ofName? k with
    | none => simp only [get?_of_unknown found, Dict.get?_insert, Setting.kept, known]
    | some other =>
      -- The fields of recognized options are not among the others.
      obtain rfl := OptionKey.ofName?_eq_some_iff.1 found
      rw [if_neg (Ne.symm (OptionKey.ofName?_eq_none_iff.1 known other)), get?_name, get?_name]
      cases other <;> rfl
  | some key =>
    obtain rfl := OptionKey.ofName?_eq_some_iff.1 known
    rw [set_name] at made
    split at made
    · next assigned =>
      cases made
      cases found : OptionKey.ofName? k with
      | none =>
        rw [if_neg (OptionKey.ofName?_eq_none_iff.1 found key), get?_of_unknown found,
          get?_of_unknown found, extra_of_assign? assigned]
      | some other =>
        obtain rfl := OptionKey.ofName?_eq_some_iff.1 found
        rw [get?_name, get?_name, field_of_assign? assigned]
        by_cases same : key = other
        · simp [same]
        · have apart : key.name ≠ other.name := fun names => same (OptionKey.name_injective names)
          simp [same, apart]
    · cases made

/-- The first setting of a list that is refused, and its error. -/
def FirstRefused (values : List (String × Setting)) (error : ConfigError) : Prop :=
  ∃ before key value after, values = before ++ (OptionKey.name key, value) :: after ∧
    value.kind ∉ key.kinds ∧ (∀ entry ∈ before, WellTyped entry.1 entry.2) ∧
    error = .invalidValue key value

theorem apply_cons (o : Options) (name : String) (value : Setting) (values : List (String × Setting)) :
    (o.apply ((name, value) :: values)).result =
      match o.set name value with
      | ⟨o', none⟩ => (o'.apply values).result
      | ⟨_, some error⟩ => .error error := by
  simp only [apply, run]
  rcases o.set name value with ⟨o', _ | error⟩ <;> rfl

/-- A run of settings fails with the first one that is refused. -/
theorem apply_eq_error_iff {values : List (String × Setting)} {error : ConfigError} :
    (o.apply values).result = .error error ↔ FirstRefused values error := by
  induction values generalizing o with
  | nil =>
    constructor
    · nofun
    · rintro ⟨before, key, value, after, whole, -⟩
      simp at whole
  | cons entry values ih =>
    obtain ⟨name, value⟩ := entry
    rw [apply_cons]
    rcases made : o.set name value with ⟨o', _ | refusal⟩
    case some =>
      obtain ⟨-, key, rfl, refused, rfl⟩ := set_eq_refused_iff.1 made
      constructor
      · intro same
        cases same
        exact ⟨[], key, value, values, rfl, refused, by simp, rfl⟩
      · rintro ⟨before, other, value', after, whole, refused', typed, rfl⟩
        cases before with
        | nil =>
          obtain ⟨names, rfl⟩ := Prod.mk.inj (List.cons.inj whole).1
          rw [OptionKey.name_injective names]
        | cons first before =>
          obtain ⟨rfl, -⟩ := List.cons.inj whole
          exact absurd (wellTyped_name_iff.1 (typed _ List.mem_cons_self)) refused
    case none =>
      have typed := wellTyped_of_set made
      simp only [ih]
      constructor
      · rintro ⟨before, key, value', after, rfl, refused, earlier, rfl⟩
        refine ⟨(name, value) :: before, key, value', after, rfl, refused, ?_, rfl⟩
        intro entry member
        rcases List.mem_cons.1 member with rfl | member
        · exact typed
        · exact earlier entry member
      · rintro ⟨before, key, value', after, whole, refused, earlier, rfl⟩
        cases before with
        | nil =>
          obtain ⟨rfl, rfl⟩ := Prod.mk.inj (List.cons.inj whole).1
          exact absurd (wellTyped_name_iff.1 typed) refused
        | cons first before =>
          obtain ⟨rfl, rfl⟩ := List.cons.inj whole
          exact ⟨before, key, value', after, rfl, refused,
            fun entry member => earlier entry (List.mem_cons_of_mem _ member), rfl⟩

theorem wellTyped_of_apply {values : List (String × Setting)}
    (made : (o.apply values).result = .ok o') : ∀ entry ∈ values, WellTyped entry.1 entry.2 := by
  induction values generalizing o with
  | nil => simp
  | cons entry values ih =>
    obtain ⟨name, value⟩ := entry
    rw [apply_cons] at made
    split at made
    · next o'' first =>
      intro entry member
      rcases List.mem_cons.1 member with rfl | member
      · exact wellTyped_of_set first
      · exact ih made entry member
    · cases made

/-- A run that is not refused leaves for every name what was set last. -/
theorem get?_of_apply {values : List (String × Setting)} (made : (o.apply values).result = .ok o')
    (k : String) :
    o'.get? k =
      match values.reverse.lookup k with
      | some value => some (value.kept k)
      | none => o.get? k := by
  induction values generalizing o with
  | nil =>
    cases made
    rfl
  | cons entry values ih =>
    obtain ⟨name, value⟩ := entry
    rw [apply_cons] at made
    split at made
    · next o'' first =>
      rw [ih made, get?_of_set first, List.reverse_cons, List.lookup_append]
      cases values.reverse.lookup k with
      | some later => rfl
      | none =>
        by_cases same : name = k
        · subst same
          simp
        · simp [Dict.lookup_cons, same]
    · cases made

theorem applyRaw_eq_apply (o : Options) (pairs : List (String × String)) :
    o.applyRaw pairs = o.apply (pairs.map fun pair => (pair.1, coerce pair.1 pair.2)) := by
  induction pairs generalizing o with
  | nil => rfl
  | cons pair pairs ih =>
    simp only [applyRaw, apply, List.map_cons, run, setRaw] at ih ⊢
    rcases o.set pair.1 (coerce pair.1 pair.2) with ⟨o', _ | error⟩
    · exact ih o'
    · rfl

end Options

end Transclude
