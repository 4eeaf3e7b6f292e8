import Transclude.Proofs.Directive.Attributes

namespace Transclude.Attributes

open Transclude.Text

/-- A name of an attribute: not empty, and without blanks, `=` and `/`. -/
def IsName (name : List Char) : Prop :=
  name ≠ [] ∧ ∀ c ∈ name, isBlank c = false ∧ c ≠ '=' ∧ c ≠ '/'

instance (name : List Char) : Decidable (IsName name) :=
  have : Decidable (∀ c ∈ name, isBlank c = false ∧ c ≠ '=' ∧ c ≠ '/') := List.decidableBAll _ _
  inferInstanceAs (Decidable (_ ∧ _))

/-- The texts that a list of attributes, each a name and a value, can be written as. An attribute without
quotes is followed by a blank, or by nothing. -/
inductive Written : List (List Char × List Char) → List Char → Prop where
  | nil : Written [] []
  | separator {attributes : List (List Char × List Char)} {c : Char} {text : List Char}
      (between : isBlank c = true ∨ c = '/') (later : Written attributes text) :
      Written attributes (c :: text)
  | bare {attributes : List (List Char × List Char)} {name text : List Char} (named : IsName name)
      (apart : StartsBlank text) (later : Written attributes text) :
      Written ((name, []) :: attributes) (name ++ text)
  | quoted {attributes : List (List Char × List Char)} {name front back value text : List Char}
      {quote : Char} (named : IsName name) (before : ∀ c ∈ front, isBlank c = true)
      (behind : ∀ c ∈ back, isBlank c = true) (mark : quote = '"' ∨ quote = '\'')
      (absent : quote ∉ value) (later : Written attributes text) :
      Written ((name, value) :: attributes)
        (name ++ (front ++ '=' :: (back ++ quote :: (value ++ quote :: text))))
  | plain {attributes : List (List Char × List Char)} {name front back text : List Char} {c : Char}
      {value : List Char} (named : IsName name) (before : ∀ c ∈ front, isBlank c = true)
      (behind : ∀ c ∈ back, isBlank c = true) (unquoted : c ≠ '"' ∧ c ≠ '\'')
      (solid : ∀ d ∈ c :: value, isBlank d = false) (apart : StartsBlank text)
      (later : Written attributes text) :
      Written ((name, c :: value) :: attributes)
        (name ++ (front ++ '=' :: (back ++ (c :: value ++ text))))

/-- What the first attribute of a name has as its value; names are compared in lower case. -/
def FirstValue (attributes : List (List Char × List Char)) (name value : String) : Prop :=
  ∃ earlier written v later, attributes = earlier ++ (written, v) :: later ∧
    lower written = name ∧ String.ofList v = value ∧ ∀ other ∈ earlier, lower other.1 ≠ name

theorem IsName.cons {name : List Char} (named : IsName name) :
    ∃ c cs, name = c :: cs ∧ ∀ d ∈ c :: cs, isNameChar d = true := by
  obtain ⟨nonempty, letters⟩ := named
  obtain ⟨c, cs, rfl⟩ := List.exists_cons_of_ne_nil nonempty
  exact ⟨c, cs, rfl, fun d member => by simp [isNameChar, letters d member]⟩

/-- No attribute starts with `=`, so that a name without a value does not get one from behind. -/
theorem Written.unsigned {attributes : List (List Char × List Char)} {text : List Char}
    (written : Written attributes text) (after : List Char) : trimLeft text ≠ '=' :: after := by
  have solid : ∀ {name rest : List Char}, IsName name → trimLeft (name ++ rest) ≠ '=' :: after := by
    rintro name rest ⟨nonempty, letters⟩ equals
    obtain ⟨c, cs, rfl⟩ := List.exists_cons_of_ne_nil nonempty
    obtain ⟨visible, unsigned, -⟩ := letters c List.mem_cons_self
    rw [List.cons_append, trimLeft_cons visible] at equals
    exact unsigned (List.cons.inj equals).1
  induction written with
  | nil => nofun
  | @separator _ c text between later ih =>
    by_cases blank : isBlank c = true
    · rwa [trimLeft, List.dropWhile_cons_of_pos blank]
    · have slash := between.resolve_left blank
      rw [trimLeft_cons (by simpa using blank), slash]
      simp
  | bare named | quoted named | plain named => exact solid named

/-- Attributes are read back as they were written, in order and with repeats. -/
theorem items_of_written {attributes : List (List Char × List Char)} {text : List Char}
    (written : Written attributes text) : items text = attributes := by
  induction written with
  | nil => exact items_nil
  | separator between later ih => rw [items_of_separator (by simpa [isSeparator] using between), ih]
  | bare named apart later ih =>
    obtain ⟨c, cs, rfl, letters⟩ := named.cons
    rw [items_bare letters apart later.unsigned, ih]
  | @quoted _ name front back value text quote named before behind mark absent later ih =>
    obtain ⟨c, cs, rfl, letters⟩ := named.cons
    have solid : isBlank quote = false := by
      rcases mark with rfl | rfl <;> decide
    rw [items_valued letters before, trimLeft_append behind, trimLeft_cons solid,
      readValue_quoted mark absent, ih]
  | @plain _ name front back text v value named before behind unquoted solid apart later ih =>
    obtain ⟨c, cs, rfl, letters⟩ := named.cons
    rw [items_valued letters before, trimLeft_append behind, List.cons_append,
      trimLeft_cons (solid v List.mem_cons_self), ← List.cons_append,
      readValue_plain (by simpa using unquoted) solid apart, ih]

theorem sorted_parse (text : String) : (parse text).entries.Sorted := by
  have kept : ∀ (items : List (List Char × List Char)) (d : Dict String), d.Sorted →
      Dict.Sorted (items.foldl (fun d item => d.insertNew (lower item.1) (String.ofList item.2)) d) := by
    intro items
    induction items with
    | nil => exact fun d sorted => sorted
    | cons item items ih => exact fun d sorted => ih _ (Dict.sorted_insertNew sorted _ _)
  exact kept _ _ List.Pairwise.nil

theorem get?_ofItems_eq_some_iff {attributes : List (List Char × List Char)} {name value : String} :
    (ofItems attributes).get? name = some value ↔ FirstValue attributes name value := by
  rw [get?_ofItems, Option.map_eq_some_iff]
  constructor
  · rintro ⟨⟨written, v⟩, found, rfl⟩
    obtain ⟨same, earlier, later, rfl, others⟩ := List.find?_eq_some_iff_append.1 found
    exact ⟨earlier, written, v, later, rfl, by simpa using same, rfl, by simpa using others⟩
  · rintro ⟨earlier, written, v, later, rfl, same, rfl, others⟩
    refine ⟨(written, v), List.find?_eq_some_iff_append.2 ⟨by simpa using same, ?_⟩, rfl⟩
    exact ⟨earlier, later, rfl, by simpa using others⟩

theorem dataName?_eq_some_iff {name key : String} :
    dataName? name = some key ↔ key ≠ "" ∧ name = "data-" ++ key := by
  unfold dataName?
  constructor
  · intro found
    split at found
    · next c rest behind =>
      cases found
      refine ⟨by simp, String.toList_inj.1 ?_⟩
      rw [after?_eq_some_iff.1 behind]
      simp
    · cases found
  · rintro ⟨nonempty, rfl⟩
    obtain ⟨c, rest, split⟩ : ∃ c rest, key.toList = c :: rest :=
      List.exists_cons_of_ne_nil (by simpa using nonempty)
    have behind : after? ['d', 'a', 't', 'a', '-'] ("data-" ++ key).toList = some (c :: rest) :=
      after?_eq_some_iff.2 (by simp [split])
    simp only [behind]
    rw [← split, String.ofList_toList]

private theorem lt_of_append_lt {a b c : String} (less : a ++ b < a ++ c) : b < c := by
  have strip : ∀ a b c : List Char, a ++ b < a ++ c → b < c := by
    intro a b c less
    induction a with
    | nil => exact less
    | cons d a ih =>
      rcases List.cons_lt_cons_iff.1 less with rises | ⟨-, later⟩
      · exact absurd rises (Char.lt_irrefl d)
      · exact ih later
  rw [String.lt_iff] at less ⊢
  exact strip a.toList _ _ (by simpa using less)

/-- The data of attributes are those whose names start with `data-` and go on, without that start. The
names stay in order, since they start alike. -/
theorem data?_eq (a : Attributes) (sorted : a.entries.Sorted) :
    (a.data? = none ↔ ∀ name value, name ≠ "" → ("data-" ++ name, value) ∉ a.entries) ∧
      ∀ data, a.data? = some data → data.Sorted ∧
        ∀ name value, (name, value) ∈ data ↔ name ≠ "" ∧ ("data-" ++ name, value) ∈ a.entries := by
  unfold data?
  generalize kept : a.entries.filterMap _ = data
  have member : ∀ name value, (name, value) ∈ data ↔
      name ≠ "" ∧ ("data-" ++ name, value) ∈ a.entries := by
    intro name value
    simp only [← kept, List.mem_filterMap, Option.map_eq_some_iff, Prod.exists, Prod.mk.injEq,
      dataName?_eq_some_iff]
    constructor
    · rintro ⟨_, v, inside, n, ⟨nonempty, rfl⟩, rfl, rfl⟩
      exact ⟨nonempty, inside⟩
    · rintro ⟨nonempty, inside⟩
      exact ⟨_, value, inside, name, ⟨nonempty, rfl⟩, rfl, rfl⟩
  have ordered : Dict.Sorted data := by
    rw [← kept]
    refine List.Pairwise.filterMap _ ?_ sorted
    rintro ⟨n, v⟩ ⟨n', v'⟩ less ⟨k, w⟩ first ⟨k', w'⟩ second
    obtain ⟨_, one, same⟩ := Option.map_eq_some_iff.1 first
    obtain ⟨_, two, same'⟩ := Option.map_eq_some_iff.1 second
    cases same
    cases same'
    obtain ⟨-, rfl⟩ := dataName?_eq_some_iff.1 one
    obtain ⟨-, rfl⟩ := dataName?_eq_some_iff.1 two
    exact lt_of_append_lt less
  cases data with
  | nil =>
    have none : ∀ name value, name ≠ "" → ("data-" ++ name, value) ∉ a.entries :=
      fun name value nonempty inside =>
        absurd ((member name value).2 ⟨nonempty, inside⟩) List.not_mem_nil
    refine ⟨⟨fun _ => none, fun _ => rfl⟩, ?_⟩
    rintro data ⟨⟩
  | cons entry data =>
    obtain ⟨nonempty, inside⟩ := (member entry.1 entry.2).1 List.mem_cons_self
    refine ⟨⟨?_, fun none => absurd inside (none _ _ nonempty)⟩, ?_⟩
    · rintro ⟨⟩
    · rintro _ ⟨⟩
      exact ⟨ordered, member⟩

/-- However a list of attributes is written, what is read is the value of the first attribute of each
name, by names in lower case, and the data among them. -/
theorem parse_of_written {attributes : List (List Char × List Char)} {text : String}
    (written : Written attributes text.toList) :
    (parse text).entries.Sorted ∧
    (∀ name value, (name, value) ∈ (parse text).entries ↔ FirstValue attributes name value) ∧
    ((parse text).data? = none ↔
      ∀ name value, name ≠ "" → ("data-" ++ name, value) ∉ (parse text).entries) ∧
    ∀ data, (parse text).data? = some data → data.Sorted ∧
      ∀ name value, (name, value) ∈ data ↔
        name ≠ "" ∧ ("data-" ++ name, value) ∈ (parse text).entries := by
  have sorted := sorted_parse text
  refine ⟨sorted, fun name value => ?_, data?_eq _ sorted⟩
  have read : (parse text).entries.get? name = (ofItems attributes).get? name := by
    rw [← items_of_written written]
    rfl
  rw [Dict.mem_iff_get? sorted, read, get?_ofItems_eq_some_iff]

/-- Attributes in all four ways, of which two have one name, and two another. -/
theorem parse_of_written_mixed :
    let attributes := [("REL".toList, "a b".toList), ("data-K".toList, ['>']), (['x'], "/y=".toList),
      ("rel".toList, ['d']), ("data-k".toList, [])]
    let text := "REL =\t\"a b\"data-K='>' x=/y= rel=d /data-k "
    Written attributes text.toList ∧
      ("rel", "a b") ∈ (parse text).entries ∧ ("data-k", ">") ∈ (parse text).entries ∧
      ("x", "/y=") ∈ (parse text).entries ∧
      ∃ data, (parse text).data? = some data ∧ ("k", ">") ∈ data := by
  intro attributes text
  have none : ∀ c ∈ ([] : List Char), isBlank c = true := fun _ => nofun
  have space : ∀ c ∈ [' '], isBlank c = true := forall_mem_of_all (by decide)
  have tab : ∀ c ∈ ['\t'], isBlank c = true := forall_mem_of_all (by decide)
  have blank : Written [] [' '] := .separator (by decide) .nil
  have bare : Written (attributes.drop 4) "data-k ".toList :=
    .bare (by decide : IsName "data-k".toList) (startsBlank_cons.2 (by decide)) blank
  have between : Written (attributes.drop 4) " /data-k ".toList :=
    .separator (by decide) (.separator (by decide) bare)
  have second : Written (attributes.drop 3) "rel=d /data-k ".toList :=
    .plain (by decide : IsName "rel".toList) none none (by decide)
      (forall_mem_of_all (by decide) : ∀ d ∈ ['d'], isBlank d = false) (startsBlank_cons.2 (by decide))
      between
  have plain : Written (attributes.drop 2) "x=/y= rel=d /data-k ".toList :=
    .plain (by decide : IsName ['x']) none none (by decide)
      (forall_mem_of_all (by decide) : ∀ d ∈ "/y=".toList, isBlank d = false)
      (startsBlank_cons.2 (by decide)) (.separator (by decide) second)
  have single : Written (attributes.drop 1) "data-K='>' x=/y= rel=d /data-k ".toList :=
    .quoted (by decide : IsName "data-K".toList) none none (.inr rfl) (by decide : _ ∉ ['>'])
      (.separator (by decide) plain)
  have written : Written attributes "REL =\t\"a b\"data-K='>' x=/y= rel=d /data-k ".toList :=
    .quoted (by decide : IsName "REL".toList) space tab (.inl rfl) (by decide : _ ∉ "a b".toList) single
  obtain ⟨-, values, absent, present⟩ := parse_of_written written
  have held : ("data-k", ">") ∈ (parse text).entries :=
    (values _ _).2 ⟨attributes.take 1, "data-K".toList, ['>'], attributes.drop 2, by decide⟩
  refine ⟨written, ?_, held, ?_, ?_⟩
  · exact (values _ _).2 ⟨[], "REL".toList, "a b".toList, attributes.drop 1, by decide⟩
  · exact (values _ _).2 ⟨attributes.take 2, ['x'], "/y=".toList, attributes.drop 3, by decide⟩
  · cases found : (parse text).data? with
    | none => exact absurd held (absent.1 found "k" ">" (by decide))
    | some data => exact ⟨data, rfl, ((present data found).2 "k" ">").2 ⟨by decide, held⟩⟩

end Transclude.Attributes
