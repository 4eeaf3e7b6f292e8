import Transclude.Proofs.Decimal.Literal
import Transclude.Proofs.Options.Assignment
import Transclude.Proofs.Options.Suffix

namespace Transclude

open Transclude.Text Transclude.Suffix

namespace OptionKey

/-- One part of a list: blanks around a name do not count, and blanks alone are no name. -/
inductive Part : List Char → List String → Prop where
  | blank {part : List Char} (blank : Gap part) : Part part []
  | name {front name back : List Char} (outer : Gap front ∧ Gap back) (some : name ≠ [])
      (trimmed : Trimmed name) : Part (front ++ name ++ back) [String.ofList name]

/-- The names in a list whose parts are separated by commas. -/
inductive Listed : List Char → List String → Prop where
  | last {part : List Char} {names : List String} (whole : ',' ∉ part) (held : Part part names) :
      Listed part names
  | comma {part rest : List Char} {names others : List String} (whole : ',' ∉ part)
      (held : Part part names) (later : Listed rest others) :
      Listed (part ++ ',' :: rest) (names ++ others)

end OptionKey

/-- What a text is read as where no type is asked for: the two words for truth values and the texts of
finite numbers as what they say, and any other text as itself. -/
inductive Setting.Inferred (raw : String) : Setting → Prop where
  | yes (word : raw = "true") : Inferred raw (.boolean true)
  | no (word : raw = "false") : Inferred raw (.boolean false)
  | number {x : Float} (reads : Decimal.Reads raw.toList x) : Inferred raw (.number x)
  | text (yes : raw ≠ "true") (no : raw ≠ "false") (wordy : ∀ x, ¬ Decimal.Reads raw.toList x) :
      Inferred raw (.text raw)

/-- What a text is read as under a name. Under `strict` most texts are read as nothing. -/
inductive Reads : String → String → Setting → Prop where
  | names {raw : String} {names : List String} (listed : OptionKey.Listed raw.toList names) :
      Reads "directiveTag" raw (.list names)
  | yes {raw : String} (word : raw ∈ ["true", "1"]) : Reads "strict" raw (.boolean true)
  | no {raw : String} (word : raw ∈ ["false", "0", ""]) : Reads "strict" raw (.boolean false)
  | text {name raw : String}
      (named : name ∈ ["cssLoader", "defaultExt", "defaultInclusionExt", "inclusionLoader"]) :
      Reads name raw (.text raw)
  | inferred {name raw : String} {value : Setting} (other : ∀ key : OptionKey, key.name ≠ name)
      (inferred : Setting.Inferred raw value) : Reads name raw value

namespace OptionKey

/-- Every text is what stays of it without the blanks around. -/
theorem exists_padded (cs : List Char) :
    ∃ front back, (Gap front ∧ Gap back) ∧ Trimmed (trim cs) ∧ cs = front ++ trim cs ++ back := by
  have solid : ∀ (cs : List Char), ∀ c ∈ (cs.dropWhile isBlank).head?, isBlank c = false := by
    intro cs c first
    have kept := List.head?_dropWhile_not isBlank cs
    rwa [first] at kept
  have left : cs.takeWhile isBlank ++ trimLeft cs = cs := List.takeWhile_append_dropWhile
  have right : trim cs ++ ((trimLeft cs).reverse.takeWhile isBlank).reverse = trimLeft cs := by
    rw [trim, trimRight, ← List.reverse_append, List.takeWhile_append_dropWhile, List.reverse_reverse]
  refine ⟨cs.takeWhile isBlank, ((trimLeft cs).reverse.takeWhile isBlank).reverse, ⟨?_, ?_⟩, ⟨?_, ?_⟩, ?_⟩
  · exact fun c member => List.mem_takeWhile_imp member
  · exact fun c member => List.mem_takeWhile_imp (List.mem_reverse.1 member)
  · intro c first
    refine solid cs c ?_
    rw [← trimLeft, ← right]
    exact List.mem_head?_append_of_mem_head? first
  · intro c last
    rw [trim, trimRight, List.getLast?_reverse] at last
    exact solid _ c last
  · rw [List.append_assoc, right, left]

/-- The part of a list as the name it holds, if it holds one. -/
theorem part_iff {cs : List Char} {names : List String} :
    Part cs names ↔ names = ([trim cs].filter (!·.isEmpty)).map String.ofList := by
  constructor
  · intro part
    cases part with
    | blank gap =>
      have nothing := trim_padded (by decide : Trimmed []) gap gap_nil
      rw [List.append_nil, List.append_nil] at nothing
      simp [nothing]
    | name outer some trimmed =>
      rw [trim_padded trimmed outer.1 outer.2]
      simp [some]
  · rintro rfl
    obtain ⟨front, back, outer, trimmed, whole⟩ := exists_padded cs
    by_cases empty : trim cs = []
    · rw [empty, List.append_nil] at whole
      rw [empty]
      refine .blank fun c member => ?_
      rw [whole] at member
      exact (List.mem_append.1 member).elim (outer.1 c) (outer.2 c)
    · have name := Part.name outer empty trimmed
      rw [← whole] at name
      simpa [empty] using name

theorem names_last {part : List Char} (whole : ',' ∉ part) :
    names (String.ofList part) = ([trim part].filter (!·.isEmpty)).map String.ofList := by
  rw [names, String.toList_ofList, List.splitOn_eq_singleton whole]
  rfl

theorem names_comma {part : List Char} (whole : ',' ∉ part) (rest : List Char) :
    names (String.ofList (part ++ ',' :: rest)) =
      ([trim part].filter (!·.isEmpty)).map String.ofList ++ names (String.ofList rest) := by
  simp only [names, String.toList_ofList, List.splitOn_append_cons_self_of_not_mem whole,
    List.map_cons, List.filter_cons, List.filter_nil]
  split <;> rfl

/-- The names in a list are those of its parts. -/
theorem listed_iff {cs : List Char} {found : List String} :
    Listed cs found ↔ names (String.ofList cs) = found := by
  constructor
  · intro listed
    induction listed with
    | last whole held => rw [names_last whole, part_iff.1 held]
    | comma whole held later ih => rw [names_comma whole, ih, part_iff.1 held]
  · rintro rfl
    induction length : cs.length using Nat.strong_induction_on generalizing cs with
    | _ n ih =>
      cases split : splitOnce? ',' cs with
      | none =>
        have whole := splitOnce?_eq_none_iff.1 split
        exact names_last whole ▸ .last whole (part_iff.2 rfl)
      | some parts =>
        obtain ⟨rfl, whole⟩ := splitOnce?_eq_some_iff.1 split
        rw [names_comma whole]
        refine .comma whole (part_iff.2 rfl) (ih _ ?_ rfl)
        simp only [List.length_append, List.length_cons] at length
        omega

end OptionKey

namespace Setting

/-- A text is read in one way at most. -/
theorem Inferred.infer_eq {raw : String} {value : Setting} (inferred : Inferred raw value) :
    infer raw = value := by
  unfold infer
  cases inferred with
  | yes word => rw [if_pos word]
  | no word => rw [if_neg (by rw [word]; decide), if_pos word]
  | number reads =>
    obtain ⟨read, finite⟩ := Decimal.reads_iff.1 reads
    have wordless : ∀ word ∈ ["true", "false"], Decimal.read? word.toList = none := by decide
    have numeric : ∀ word ∈ ["true", "false"], raw ≠ word := by
      rintro word member rfl
      rw [wordless raw member] at read
      cases read
    rw [if_neg (numeric "true" (by decide)), if_neg (numeric "false" (by decide)), read]
    simp [finite]
  | text yes no wordy =>
    rw [if_neg yes, if_neg no]
    split
    · next x read => exact if_neg fun finite => wordy x (Decimal.reads_iff.2 ⟨read, finite⟩)
    · rfl

/-- Every text is read. -/
theorem inferred_infer (raw : String) : Inferred raw (infer raw) := by
  unfold infer
  split
  · next word => exact .yes word
  · next yes =>
    split
    · next word => exact .no word
    · next no =>
      split
      · next x read =>
        split
        · next finite => exact .number (Decimal.reads_iff.2 ⟨read, finite⟩)
        · next infinite =>
          refine .text yes no fun y reads => ?_
          obtain ⟨read', finite⟩ := Decimal.reads_iff.1 reads
          rw [read] at read'
          cases read'
          exact infinite finite
      · next unread =>
        refine .text yes no fun y reads => ?_
        obtain ⟨read, -⟩ := Decimal.reads_iff.1 reads
        rw [unread] at read
        cases read

end Setting

theorem Options.coerce_name (key : OptionKey) (raw : String) :
    Options.coerce key.name raw = key.coerce raw := by
  rw [Options.coerce, OptionKey.ofName?_name]

theorem Options.coerce_of_unknown {name : String} (unknown : OptionKey.ofName? name = none)
    (raw : String) : Options.coerce name raw = Setting.infer raw := by
  rw [Options.coerce, unknown]

theorem OptionKey.coerce_strict (raw : String) :
    strict.coerce raw =
      if raw ∈ ["true", "1"] then .boolean true
      else if raw ∈ ["false", "0", ""] then .boolean false
      else .text raw := by
  simp only [coerce, List.mem_cons, List.not_mem_nil, or_false]

/-- A text is read under a name in one way at most, and as a value of a kind that the name takes. -/
theorem Reads.coerced {name raw : String} {value : Setting} (reads : Reads name raw value) :
    Options.coerce name raw = value ∧ WellTyped name value := by
  cases reads with
  | @names raw names listed =>
    have found := OptionKey.listed_iff.1 listed
    rw [String.ofList_toList] at found
    have typed : WellTyped OptionKey.directiveTag.name (.list names) :=
      wellTyped_name_iff.2 (List.mem_cons_of_mem _ List.mem_cons_self)
    exact ⟨(Options.coerce_name .directiveTag raw).trans (congrArg Setting.list found), typed⟩
  | @yes raw word =>
    have typed : WellTyped OptionKey.strict.name (.boolean true) := wellTyped_name_iff.2 (by decide)
    refine ⟨(Options.coerce_name .strict raw).trans ?_, typed⟩
    rw [OptionKey.coerce_strict, if_pos word]
  | @no raw word =>
    have typed : WellTyped OptionKey.strict.name (.boolean false) := wellTyped_name_iff.2 (by decide)
    have unlike : ∀ raw ∈ ["false", "0", ""], raw ∉ ["true", "1"] := by decide
    refine ⟨(Options.coerce_name .strict raw).trans ?_, typed⟩
    rw [OptionKey.coerce_strict, if_neg (unlike raw word), if_pos word]
  | @text name raw named =>
    have textual : ∀ name ∈ ["cssLoader", "defaultExt", "defaultInclusionExt", "inclusionLoader"],
        ∃ key ∈ [OptionKey.cssLoader, .defaultExt, .defaultInclusionExt, .inclusionLoader],
          key.name = name := by decide
    obtain ⟨key, listed, rfl⟩ := textual name named
    rw [Options.coerce_name, wellTyped_name_iff]
    simp only [List.mem_cons, List.not_mem_nil, or_false] at listed
    rcases listed with rfl | rfl | rfl | rfl <;> exact ⟨rfl, List.mem_cons_self⟩
  | inferred other inferred =>
    refine ⟨?_, fun key named => absurd named (other key)⟩
    rw [Options.coerce_of_unknown (OptionKey.ofName?_eq_none_iff.2 other)]
    exact inferred.infer_eq

/-- A text is read under a name unless what the name makes of it is of a kind that it does not take. -/
theorem reads_coerce {name raw : String} (typed : WellTyped name (Options.coerce name raw)) :
    Reads name raw (Options.coerce name raw) := by
  cases known : OptionKey.ofName? name with
  | none =>
    rw [Options.coerce_of_unknown known]
    exact .inferred (OptionKey.ofName?_eq_none_iff.1 known) (Setting.inferred_infer raw)
  | some key =>
    obtain rfl := OptionKey.ofName?_eq_some_iff.1 known
    rw [wellTyped_name_iff] at typed
    rw [Options.coerce_name] at typed ⊢
    cases key with
    | directiveTag => exact .names (OptionKey.listed_iff.2 (by rw [String.ofList_toList]))
    | strict =>
      rw [OptionKey.coerce_strict] at typed ⊢
      split at typed
      · next word =>
        rw [if_pos word]
        exact .yes word
      · next yes =>
        split at typed
        · next word =>
          rw [if_neg yes, if_pos word]
          exact .no word
        · simp [Setting.kind, OptionKey.kinds] at typed
    | _ => exact .text (by decide)

end Transclude
