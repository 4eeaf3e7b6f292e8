import Mathlib
import Transclude.Options.Host
import Transclude.Proofs.Options.Reading

namespace Transclude

/-- The texts that a truth value is read off. -/
def OptionKey.readings : List String :=
  ["true", "1", "false", "0", ""]

theorem OptionKey.kind_coerce_mem_iff {key : OptionKey} {raw : String} :
    (key.coerce raw).kind ∈ key.kinds ↔ (key = .strict → raw ∈ readings) := by
  cases key with
  | strict =>
    by_cases yes : raw = "true" ∨ raw = "1"
    · rcases yes with rfl | rfl <;> simp [coerce, Setting.kind, kinds, readings]
    · by_cases no : raw = "false" ∨ raw = "0" ∨ raw = ""
      · rcases no with rfl | rfl | rfl <;> simp [coerce, Setting.kind, kinds, readings]
      · simp only [not_or] at yes no
        simp [coerce, Setting.kind, kinds, readings, yes, no]
  | _ => simp [coerce, Setting.kind, kinds]

theorem OptionKey.coerce_of_not_mem {raw : String} (unreadable : raw ∉ readings) :
    strict.coerce raw = .text raw := by
  simp only [readings, List.mem_cons, not_or] at unreadable
  simp [coerce, unreadable]

theorem Options.wellTyped_coerce_iff {name raw : String} :
    WellTyped name (Options.coerce name raw) ↔ (name = "strict" → raw ∈ OptionKey.readings) := by
  constructor
  · rintro typed rfl
    have taken : (Options.coerce OptionKey.strict.name raw).kind ∈ OptionKey.strict.kinds :=
      typed .strict rfl
    rw [coerce_name, OptionKey.kind_coerce_mem_iff] at taken
    exact taken rfl
  · rintro readable key rfl
    rw [coerce_name, OptionKey.kind_coerce_mem_iff]
    rintro rfl
    exact readable rfl

theorem Setting.kept_coerce (name raw : String) :
    (Options.coerce name raw).kept name = Options.coerce name raw := by
  unfold kept Options.coerce
  cases OptionKey.ofName? name with
  | none => rfl
  | some key => cases key <;> rfl

/-- No recognized option has a value of the wrong kind in the host's configuration. -/
def Host.WellTyped (host : Host) : Prop :=
  ∀ key value, host.get? (OptionKey.name key) = some value → value.kind ∈ key.kinds

/-- Why the layers of a call are refused: for the least name with a value of the wrong kind in the host's
configuration or, if there is none, for the first text in the suffix that is no truth value. -/
inductive LayersRefused (host : Host) (pairs : List (String × String)) : ConfigError → Prop where
  | host {key : OptionKey} {value : Setting} (held : host.get? key.name = some value)
      (refused : value.kind ∉ key.kinds)
      (least : ∀ other value', OptionKey.name other < key.name →
        host.get? other.name = some value' → value'.kind ∈ other.kinds) :
      LayersRefused host pairs (.invalidValue key value)
  | suffix {before after : List (String × String)} {raw : String} (typed : host.WellTyped)
      (split : pairs = before ++ ("strict", raw) :: after) (refused : raw ∉ OptionKey.readings)
      (first : ∀ earlier, ("strict", earlier) ∈ before → earlier ∈ OptionKey.readings) :
      LayersRefused host pairs (.invalidValue .strict (.text raw))

theorem not_layersRefused {host : Host} {pairs : List (String × String)} (typed : host.WellTyped)
    (readable : ∀ raw, ("strict", raw) ∈ pairs → raw ∈ OptionKey.readings) (error : ConfigError) :
    ¬ LayersRefused host pairs error := by
  intro refused
  cases refused with
  | host held refused => exact refused (typed _ _ held)
  | suffix _ split unreadable => exact unreadable (readable _ (by simp [split]))

/-- The pairs of a suffix, none if there is no suffix. -/
def Suffix.given (suffix : Option String) : List (String × String) :=
  (suffix.map pairs).getD []

namespace Options

variable {o : Options} {host : Host} {pairs : List (String × String)} {error : ConfigError}

/-- In the host's configuration the first setting is that of the least name. -/
theorem firstRefused_values_iff :
    FirstRefused host.values error ↔
      ∃ key value, host.get? (OptionKey.name key) = some value ∧ value.kind ∉ key.kinds ∧
        (∀ other value', OptionKey.name other < key.name →
          host.get? other.name = some value' → value'.kind ∈ other.kinds) ∧
        error = .invalidValue key value := by
  constructor
  · rintro ⟨before, key, value, after, whole, refused, typed, rfl⟩
    refine ⟨key, value, (Dict.mem_iff_get? host.sorted).1 (by simp [whole]), refused, ?_, rfl⟩
    intro other value' less held
    have member : (other.name, value') ∈ host.values := (Dict.mem_iff_get? host.sorted).2 held
    have sorted : List.Pairwise _ host.values := host.sorted
    rw [whole] at member sorted
    rcases List.mem_append.1 member with inside | inside
    · exact wellTyped_name_iff.1 (typed _ inside)
    · rcases List.mem_cons.1 inside with same | inside
      · rw [(Prod.mk.inj same).1] at less
        exact absurd less (String.lt_irrefl _)
      · have behind := (List.pairwise_cons.1 (List.pairwise_append.1 sorted).2.1).1 _ inside
        exact absurd (String.lt_trans less behind) (String.lt_irrefl _)
  · rintro ⟨key, value, held, refused, least, rfl⟩
    obtain ⟨before, after, whole⟩ := List.append_of_mem ((Dict.mem_iff_get? host.sorted).2 held)
    refine ⟨before, key, value, after, whole, refused, ?_, rfl⟩
    rintro ⟨name, value'⟩ member other rfl
    refine least other value' ?_ ((Dict.mem_iff_get? host.sorted).1 (by simp [whole, member]))
    have sorted : List.Pairwise _ host.values := host.sorted
    rw [whole] at sorted
    exact (List.pairwise_append.1 sorted).2.2 _ member _ List.mem_cons_self

/-- Of the pairs of a suffix only a text that is no truth value is refused. -/
theorem firstRefused_coerced_iff :
    FirstRefused (pairs.map fun pair => (pair.1, coerce pair.1 pair.2)) error ↔
      ∃ before raw after, pairs = before ++ ("strict", raw) :: after ∧ raw ∉ OptionKey.readings ∧
        (∀ earlier, ("strict", earlier) ∈ before → earlier ∈ OptionKey.readings) ∧
        error = .invalidValue .strict (.text raw) := by
  constructor
  · rintro ⟨before, key, value, after, whole, refused, typed, rfl⟩
    obtain ⟨front, rest, rfl, rfl, split⟩ := List.map_eq_append_iff.1 whole
    obtain ⟨⟨name, raw⟩, back, rfl, entry, rfl⟩ := List.map_eq_cons_iff.1 split
    obtain ⟨rfl, rfl⟩ := Prod.mk.inj entry
    rw [coerce_name, OptionKey.kind_coerce_mem_iff] at refused
    simp only [Classical.not_imp] at refused
    obtain ⟨rfl, unreadable⟩ := refused
    refine ⟨front, raw, back, rfl, unreadable, ?_, ?_⟩
    · intro earlier member
      exact wellTyped_coerce_iff.1 (typed _ (List.mem_map_of_mem member)) rfl
    · rw [coerce_name, OptionKey.coerce_of_not_mem unreadable]
  · rintro ⟨before, raw, after, rfl, unreadable, readable, rfl⟩
    refine ⟨before.map fun pair => (pair.1, coerce pair.1 pair.2), .strict, .text raw,
      after.map fun pair => (pair.1, coerce pair.1 pair.2), ?_, by simp [Setting.kind, OptionKey.kinds],
      ?_, rfl⟩
    · have read : coerce "strict" raw = .text raw :=
        (coerce_name .strict raw).trans (OptionKey.coerce_of_not_mem unreadable)
      simp [read, OptionKey.name]
    · intro entry member
      obtain ⟨⟨name, raw'⟩, inside, rfl⟩ := List.mem_map.1 member
      refine wellTyped_coerce_iff.2 ?_
      rintro rfl
      exact readable raw' inside

theorem layered_eq (defaults : Options) (host : Host) (suffix : Option String) :
    layered defaults host suffix =
      match (defaults.apply host.values).result with
      | .error error => .error error
      | .ok o => (o.applyRaw (Suffix.given suffix)).result := by
  unfold layered
  cases (defaults.apply host.values).result with
  | error error => rfl
  | ok o => cases suffix <;> rfl

theorem layered_eq_error_iff {defaults : Options} {suffix : Option String} :
    layered defaults host suffix = .error error ↔
      LayersRefused host (Suffix.given suffix) error := by
  rw [layered_eq]
  cases first : (defaults.apply host.values).result with
  | error refusal =>
    obtain ⟨key, value, held, refused, least, rfl⟩ :=
      firstRefused_values_iff.1 (apply_eq_error_iff.1 first)
    constructor
    · intro same
      cases same
      exact .host held refused least
    · intro layers
      cases layers with
      | host held refused least =>
        have firstRefused := firstRefused_values_iff.2 ⟨_, _, held, refused, least, rfl⟩
        rw [← apply_eq_error_iff (o := defaults), first] at firstRefused
        exact firstRefused
      | suffix typed => exact absurd (typed key value held) refused
  | ok o =>
    -- The host's run is through, so that only the suffix can still be refused.
    have typed : host.WellTyped := fun key value held =>
      wellTyped_name_iff.1 (wellTyped_of_apply first _ ((Dict.mem_iff_get? host.sorted).2 held))
    simp only [applyRaw_eq_apply, apply_eq_error_iff, firstRefused_coerced_iff]
    constructor
    · rintro ⟨before, raw, after, split, unreadable, readable, rfl⟩
      exact .suffix typed split unreadable readable
    · intro layers
      cases layers with
      | host held refused => exact absurd (typed _ _ held) refused
      | suffix _ split unreadable readable => exact ⟨_, _, _, split, unreadable, readable, rfl⟩

theorem lookup_coerced (pairs : List (String × String)) (name : String) :
    (pairs.map fun pair => (pair.1, coerce pair.1 pair.2)).reverse.lookup name =
      (pairs.reverse.lookup name).map (coerce name) := by
  rw [← List.map_reverse]
  induction pairs.reverse with
  | nil => rfl
  | cons pair pairs ih =>
    rw [List.map_cons, Dict.lookup_cons, Dict.lookup_cons, ih]
    by_cases same : pair.1 = name <;> simp [same]

section
variable {defaults : Options} {suffix : Option String} (made : layered defaults host suffix = .ok o)
include made

theorem get?_of_layered (name : String) :
    o.get? name =
      (((Suffix.given suffix).reverse.lookup name).map (coerce name)).or
        (((host.get? name).map (Setting.kept name)).or (defaults.get? name)) := by
  rw [layered_eq] at made
  split at made
  · cases made
  · next o' first =>
    rw [applyRaw_eq_apply] at made
    rw [get?_of_apply made, lookup_coerced, get?_of_apply first, Dict.lookup_reverse host.sorted,
      ← Host.get?]
    cases (Suffix.given suffix).reverse.lookup name with
    | some raw => simp [Setting.kept_coerce]
    | none => cases host.get? name <;> simp

/-- What the suffix gives is read, since a text that cannot be read is refused. -/
theorem reads_of_layered {name raw : String} (given : (name, raw) ∈ Suffix.given suffix) :
    Reads name raw (coerce name raw) := by
  rw [layered_eq] at made
  split at made
  · cases made
  · rw [applyRaw_eq_apply] at made
    exact reads_coerce (wellTyped_of_apply made _ (List.mem_map_of_mem given))

end

/-- The layers of a call are refused for the least name of the host's configuration that has a value of
the wrong kind or, if there is none, for the first text of the suffix that is no truth value. Otherwise
every name has what the last pair of the suffix is read as, else the value of the host, else that of the
defaults. -/
theorem layered_by_name (defaults : Options) (host : Host) (suffix : Option String) :
    (∀ error, layered defaults host suffix = .error error ↔
      LayersRefused host (Suffix.given suffix) error) ∧
    ((∀ error, ¬ LayersRefused host (Suffix.given suffix) error) →
      ∃ o, layered defaults host suffix = .ok o ∧ ∀ name,
        (∀ before raw after, Suffix.given suffix = before ++ (name, raw) :: after →
          (∀ pair ∈ after, pair.1 ≠ name) → ∃ value, Reads name raw value ∧ o.get? name = some value) ∧
        ((∀ pair ∈ Suffix.given suffix, pair.1 ≠ name) →
          o.get? name = ((host.get? name).map (Setting.kept name)).or (defaults.get? name))) := by
  refine ⟨fun error => layered_eq_error_iff, fun accepted => ?_⟩
  cases made : layered defaults host suffix with
  | error error => exact absurd (layered_eq_error_iff.1 made) (accepted error)
  | ok o =>
    refine ⟨o, rfl, fun name => ⟨fun before raw after split last => ?_, fun absent => ?_⟩⟩
    · have found : (Suffix.given suffix).reverse.lookup name = some raw := by
        refine List.lookup_eq_some_iff.2 ⟨after.reverse, before.reverse, by simp [split], ?_⟩
        intro pair member
        exact bne_iff_ne.2 (Ne.symm (last pair (List.mem_reverse.1 member)))
      have reads : Reads name raw (coerce name raw) := reads_of_layered made (by simp [split])
      exact ⟨_, reads, by rw [get?_of_layered made, found]; rfl⟩
    · have found : (Suffix.given suffix).reverse.lookup name = none := by
        refine List.lookup_eq_none_iff.2 fun pair member => ?_
        exact bne_iff_ne.2 (Ne.symm (absent pair (List.mem_reverse.1 member)))
      rw [get?_of_layered made, found]
      rfl

/-- Values of each kind that are read off a suffix, and a refusal although a later pair could be read. -/
theorem layered_by_name_dark :
    let host := Host.ofList [("theme", .text "dark"), ("directiveTag", .text "tpl")]
    let values := "theme=light;strict;width=+2.5E1;depth=inf;theme=plain"
    let names := "directiveTag= a,\t,b"
    (∀ error, ¬ LayersRefused host (Suffix.given (some values)) error) ∧
      (∃ o, layered builtin host (some values) = .ok o ∧
        o.get? "theme" = some (.text "plain") ∧ o.get? "strict" = some (.boolean true) ∧
        o.get? "width" = some (.number (.ofBits 0x4039000000000000)) ∧
        o.get? "depth" = some (.text "inf") ∧ o.get? "directiveTag" = some (.list ["tpl"]) ∧
        o.get? "cssLoader" = some (.text "css")) ∧
      (∀ error, ¬ LayersRefused host (Suffix.given (some names)) error) ∧
      (∃ o, layered builtin host (some names) = .ok o ∧
        o.get? "directiveTag" = some (.list ["a", "b"]) ∧ o.get? "theme" = some (.text "dark")) ∧
      layered builtin host (some "theme=light;strict=maybe;strict=1") =
        .error (.invalidValue .strict (.text "maybe")) := by
  intro host values names
  have typed : host.WellTyped := by
    intro key value held
    cases key with
    | directiveTag =>
      cases held
      decide
    | _ => cases held
  have given : Suffix.given (some values) = [("theme", "light"), ("strict", "true"),
      ("width", "+2.5E1"), ("depth", "inf"), ("theme", "plain")] := by cbv
  have givenNames : Suffix.given (some names) = [("directiveTag", "a,\t,b")] := by cbv
  have accepted : ∀ error, ¬ LayersRefused host (Suffix.given (some values)) error := by
    refine not_layersRefused typed fun raw member => ?_
    rw [given] at member
    obtain rfl : raw = "true" := by simpa using member
    decide
  have acceptedNames : ∀ error, ¬ LayersRefused host (Suffix.given (some names)) error := by
    refine not_layersRefused typed fun raw member => ?_
    rw [givenNames] at member
    simp at member
  obtain ⟨o, made, found⟩ := (layered_by_name builtin host (some values)).2 accepted
  obtain ⟨o', made', foundNames⟩ := (layered_by_name builtin host (some names)).2 acceptedNames
  have read : ∀ {name raw value}, coerce name raw = value →
      (∃ value, Reads name raw value ∧ o.get? name = some value) → o.get? name = some value := by
    rintro name raw _ rfl ⟨value, reads, held⟩
    rw [held, reads.coerced.1]
  refine ⟨accepted, ⟨o, made, ?_, ?_, ?_, ?_, ?_, ?_⟩, acceptedNames, ⟨o', made', ?_, ?_⟩, ?_⟩
  · exact read rfl ((found "theme").1 [("theme", "light"), ("strict", "true"), ("width", "+2.5E1"),
      ("depth", "inf")] "plain" [] given (by simp))
  · exact read rfl ((found "strict").1 [("theme", "light")] "true" _ given (by simp))
  · exact read rfl ((found "width").1 [("theme", "light"), ("strict", "true")] "+2.5E1" _ given (by simp))
  · exact read rfl ((found "depth").1 [("theme", "light"), ("strict", "true"), ("width", "+2.5E1")] "inf" _
      given (by simp))
  · rw [(found "directiveTag").2 (by rw [given]; simp)]
    rfl
  · rw [(found "cssLoader").2 (by rw [given]; simp)]
    rfl
  · obtain ⟨value, reads, held⟩ := (foundNames "directiveTag").1 [] "a,\t,b" [] givenNames (by simp)
    rw [held, ← reads.coerced.1]
    cbv
  · rw [(foundNames "theme").2 (by rw [givenNames]; simp)]
    rfl
  · refine ((layered_by_name builtin host _).1 _).2 ?_
    have split : Suffix.given (some "theme=light;strict=maybe;strict=1") =
      [("theme", "light")] ++ ("strict", "maybe") :: [("strict", "1")] := by cbv
    exact .suffix typed split (by decide) (by simp)

end Options

end Transclude
