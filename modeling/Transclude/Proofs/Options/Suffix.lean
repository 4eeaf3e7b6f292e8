import Transclude.Options.Suffix
import Transclude.Proofs.Text.Occurrence
import Transclude.Proofs.Text.Run

namespace Transclude.Suffix

open Transclude.Text

/-- A key: not empty, without blanks at its ends, and without `;` and `=`. -/
def IsKey (key : String) : Prop :=
  key ≠ "" ∧ Trimmed key.toList ∧ ';' ∉ key.toList ∧ '=' ∉ key.toList

/-- A value: without blanks at its ends, and without `;`. -/
def IsValue (value : String) : Prop :=
  Trimmed value.toList ∧ ';' ∉ value.toList

instance (key : String) : Decidable (IsKey key) :=
  inferInstanceAs (Decidable (_ ∧ _))

instance (value : String) : Decidable (IsValue value) :=
  inferInstanceAs (Decidable (_ ∧ _))

/-- A run of blanks, which may be empty. -/
def Gap (cs : List Char) : Prop :=
  ∀ c ∈ cs, isBlank c = true

instance (cs : List Char) : Decidable (Gap cs) :=
  List.decidableBAll _ cs

/-- The segments that a key and a value can be written as. The value `true` need not be written. -/
inductive Assigns : String → String → List Char → Prop where
  | valued {key value : String} {front before behind back : List Char}
      (outer : Gap front ∧ Gap back) (inner : Gap before ∧ Gap behind) :
      Assigns key value (front ++ (key.toList ++ before ++ '=' :: (behind ++ value.toList ++ back)))
  | flag {key : String} {front back : List Char} (outer : Gap front ∧ Gap back) :
      Assigns key "true" (front ++ key.toList ++ back)

/-- The segments that say nothing: blanks alone, and those without a key in front of the `=`. -/
inductive Idle : List Char → Prop where
  | blank {cs : List Char} (blank : Gap cs) : Idle cs
  | keyless {front rest : List Char} (blank : Gap front) (whole : ';' ∉ rest) :
      Idle (front ++ '=' :: rest)

/-- The segments that a list of keys and values can be written as. -/
inductive Written : List (String × String) → List (List Char) → Prop where
  | nil : Written [] []
  | idle {pairs : List (String × String)} {segment : List Char} {segments : List (List Char)}
      (idle : Idle segment) (later : Written pairs segments) : Written pairs (segment :: segments)
  | assigns {pairs : List (String × String)} {key value : String} {segment : List Char}
      {segments : List (List Char)} (assigns : Assigns key value segment)
      (later : Written pairs segments) : Written ((key, value) :: pairs) (segment :: segments)

def ofSegments (segments : List (List Char)) : String :=
  String.ofList ([';'].intercalate segments)

theorem gap_nil : Gap [] := fun _ => nofun

theorem Gap.not_mem {cs : List Char} (gap : Gap cs) {c : Char} (solid : isBlank c = false) : c ∉ cs := by
  intro member
  rw [gap c member] at solid
  cases solid

section
variable {key value : String} {segment : List Char}

/-- The first `=` of a segment separates the key from the value. -/
theorem pair?_of_signed {named rest : List Char} (signed : trim segment = named ++ '=' :: rest)
    (unsigned : '=' ∉ named) :
    pair? segment =
      if (trim named).isEmpty then none
      else some (String.ofList (trim named), String.ofList (trim rest)) := by
  have split : splitOnce? '=' (named ++ '=' :: rest) = some (named, rest) :=
    splitOnce?_eq_some_iff.2 ⟨rfl, unsigned⟩
  have nonempty : (named ++ '=' :: rest).isEmpty = false := by simp
  simp only [pair?, signed, nonempty, split, Bool.false_eq_true, if_false]

/-- Blanks in front of a segment with `=` are left out, and those behind it. -/
theorem trim_signed {front named : List Char} (blank : Gap front)
    (solid : ∀ c ∈ named.head?, isBlank c = false) (rest : List Char) :
    trim (front ++ (named ++ '=' :: rest)) = named ++ '=' :: trimRight rest := by
  have starts : ∀ c ∈ (named ++ '=' :: rest).head?, isBlank c = false := by
    cases named with
    | nil => simp [show isBlank '=' = false by decide]
    | cons c named => simpa using solid
  rw [trim, trimLeft_append blank, trimLeft_of_solid starts, trimRight_append_cons (by decide)]

theorem IsKey.toList_ne_nil (proper : IsKey key) : key.toList ≠ [] := by
  simpa using proper.1

theorem pair?_of_assigns (named : IsKey key) (valued : IsValue value)
    (assigns : Assigns key value segment) : pair? segment = some (key, value) := by
  have nonempty := named.toList_ne_nil
  obtain ⟨-, trimmed, -, unsigned⟩ := named
  cases assigns with
  | @valued _ front before behind back outer inner =>
    have solid : ∀ c ∈ (key.toList ++ before).head?, isBlank c = false := by
      obtain ⟨c, cs, split⟩ := List.exists_cons_of_ne_nil nonempty
      have first := trimmed.1
      rw [split] at first ⊢
      simpa using first
    have absent : '=' ∉ key.toList ++ before := by
      simp [unsigned, inner.1.not_mem (by decide : isBlank '=' = false)]
    have bare : trim (key.toList ++ before) = key.toList := trim_padded trimmed gap_nil inner.1
    rw [pair?_of_signed (trim_signed outer.1 solid _) absent, bare,
      trim_trimRight_padded valued.1 inner.2 outer.2]
    simp [nonempty]
  | @flag front back outer =>
    have whole : trim (front ++ key.toList ++ back) = key.toList :=
      trim_padded trimmed outer.1 outer.2
    have undivided : splitOnce? '=' key.toList = none := splitOnce?_eq_none_iff.2 unsigned
    simp only [pair?, whole, undivided]
    simp [nonempty]

theorem pair?_of_idle (idle : Idle segment) : pair? segment = none := by
  cases idle with
  | blank gap =>
    have nothing : trim (segment ++ [] ++ []) = [] :=
      trim_padded (by decide : Trimmed []) gap gap_nil
    rw [List.append_nil, List.append_nil] at nothing
    simp [pair?, nothing]
  | @keyless front rest gap whole =>
    have unnamed : ∀ c ∈ ([] : List Char).head?, isBlank c = false := fun _ => nofun
    have signed := trim_signed gap unnamed rest
    rw [List.nil_append] at signed
    rw [pair?_of_signed signed List.not_mem_nil]
    rfl

end

theorem Assigns.not_mem {key value : String} {segment : List Char} (named : IsKey key)
    (valued : IsValue value) (assigns : Assigns key value segment) : ';' ∉ segment := by
  have apart : ∀ {gap : List Char}, Gap gap → ';' ∉ gap := fun gap =>
    gap.not_mem (by decide : isBlank ';' = false)
  cases assigns with
  | valued outer inner =>
    simp [apart outer.1, apart outer.2, apart inner.1, apart inner.2, named.2.2.1, valued.2]
  | flag outer => simp [apart outer.1, apart outer.2, named.2.2.1]

theorem Idle.not_mem {segment : List Char} (idle : Idle segment) : ';' ∉ segment := by
  cases idle with
  | blank gap => exact gap.not_mem (by decide)
  | keyless gap whole => simp [gap.not_mem (by decide : isBlank ';' = false), whole]

section
variable {pairs : List (String × String)} {segments : List (List Char)}
  (proper : ∀ pair ∈ pairs, IsKey pair.1 ∧ IsValue pair.2) (written : Written pairs segments)
include proper written

theorem not_mem_of_written : ∀ segment ∈ segments, ';' ∉ segment := by
  induction written with
  | nil => exact fun _ => nofun
  | idle idle later ih => exact List.forall_mem_cons.2 ⟨idle.not_mem, ih proper⟩
  | assigns assigns later ih =>
    obtain ⟨first, others⟩ := List.forall_mem_cons.1 proper
    exact List.forall_mem_cons.2 ⟨assigns.not_mem first.1 first.2, ih others⟩

theorem filterMap_pair?_of_written : segments.filterMap pair? = pairs := by
  induction written with
  | nil => rfl
  | idle idle later ih => rw [List.filterMap_cons_none (pair?_of_idle idle), ih proper]
  | assigns assigns later ih =>
    obtain ⟨first, others⟩ := List.forall_mem_cons.1 proper
    rw [List.filterMap_cons_some (pair?_of_assigns first.1 first.2 assigns), ih others]

theorem pairs_of_written : Suffix.pairs (ofSegments segments) = pairs := by
  rw [Suffix.pairs, ofSegments, String.toList_ofList]
  cases segments with
  | nil =>
    -- A suffix without segments is read as one that is blank.
    rw [← filterMap_pair?_of_written proper written]
    rfl
  | cons segment segments =>
    rw [List.splitOn_intercalate ';' (not_mem_of_written proper written) (List.cons_ne_nil _ _)]
    exact filterMap_pair?_of_written proper written

end

theorem split_append {name : String} (plain : '!' ∉ name.toList) (suffix : String) :
    split (name ++ "!" ++ suffix) = (name, some suffix) := by
  have cut : splitOnce? '!' (name ++ "!" ++ suffix).toList = some (name.toList, suffix.toList) :=
    splitOnce?_eq_some_iff.2 ⟨by simp, plain⟩
  rw [split, cut]
  simp

/-- However keys and values are written as segments behind the first `!` of a resource, with blanks around
them and with segments between them that say nothing, they are read back in order and with repeats. -/
theorem read_written {name : String} {pairs : List (String × String)} {segments : List (List Char)}
    (plain : '!' ∉ name.toList) (proper : ∀ pair ∈ pairs, IsKey pair.1 ∧ IsValue pair.2)
    (written : Written pairs segments) :
    split (name ++ "!" ++ ofSegments segments) = (name, some (ofSegments segments)) ∧
      Suffix.pairs (ofSegments segments) = pairs :=
  ⟨split_append plain _, pairs_of_written proper written⟩

/-- A key that is given twice, a value with `=` and `!`, a key alone, and two segments that say nothing. -/
theorem read_written_padded :
    let pairs := [("expr", "a=b!c"), ("debug", "true"), ("expr", "")]
    let segments := [" expr =\ta=b!c ".toList, [], "debug".toList, " = x".toList, "expr=".toList]
    '!' ∉ "pages/index".toList ∧ (∀ pair ∈ pairs, IsKey pair.1 ∧ IsValue pair.2) ∧
      Written pairs segments ∧
      split "pages/index! expr =\ta=b!c ;;debug; = x;expr=" =
        ("pages/index", some " expr =\ta=b!c ;;debug; = x;expr=") ∧
      Suffix.pairs " expr =\ta=b!c ;;debug; = x;expr=" = pairs := by
  intro pairs segments
  have space : Gap [' '] := by decide
  have tab : Gap ['\t'] := by decide
  have none : Gap [] := gap_nil
  have plain : '!' ∉ "pages/index".toList := by decide
  have proper : ∀ pair ∈ pairs, IsKey pair.1 ∧ IsValue pair.2 := by decide
  have first : Assigns "expr" "a=b!c" " expr =\ta=b!c ".toList := .valued ⟨space, space⟩ ⟨space, tab⟩
  have second : Assigns "debug" "true" "debug".toList := .flag ⟨none, none⟩
  have third : Assigns "expr" "" "expr=".toList := .valued ⟨none, none⟩ ⟨none, none⟩
  have keyless : Idle " = x".toList := .keyless space (by decide : ';' ∉ [' ', 'x'])
  have written : Written pairs segments :=
    .assigns first (.idle (.blank none) (.assigns second (.idle keyless (.assigns third .nil))))
  have whole : ofSegments segments = " expr =\ta=b!c ;;debug; = x;expr=" := by decide
  have read := read_written plain proper written
  rw [whole] at read
  exact ⟨plain, proper, written, read⟩

end Transclude.Suffix
