import Transclude.Directive.Attributes
import Transclude.Proofs.Text.Run

namespace Transclude.Attributes

open Transclude.Text

theorem trimLeft_suffix (cs : List Char) : trimLeft cs <:+ cs :=
  List.dropWhile_suffix isBlank

/-- A value is a piece of the text it is read off, and what follows it is left. -/
theorem readValue_pieces (cs : List Char) : (readValue cs).1 <:+: cs ∧ (readValue cs).2 <:+ cs := by
  cases cs with
  | nil => simp [readValue]
  | cons c cs =>
    rw [readValue]
    split
    · cases found : splitOnce? c cs with
      | none => exact ⟨(List.suffix_cons c cs).isInfix, List.nil_suffix⟩
      | some parts =>
        obtain ⟨value, rest⟩ := parts
        obtain ⟨rfl, _⟩ := splitOnce?_eq_some_iff.1 found
        exact ⟨⟨[c], c :: rest, by simp⟩, ⟨c :: value ++ [c], by simp⟩⟩
    · exact ⟨(List.takeWhile_prefix _).isInfix, List.dropWhile_suffix _⟩

/-- A value between quote marks ends at the second one, whatever comes next. -/
theorem readValue_quoted {quote : Char} {value : List Char} (mark : quote = '"' ∨ quote = '\'')
    (absent : quote ∉ value) (rest : List Char) :
    readValue (quote :: (value ++ quote :: rest)) = (value, rest) := by
  rw [readValue, if_pos mark, splitOnce?_eq_some_iff.2 ⟨rfl, absent⟩]
  rfl

/-- A value without quote marks ends before a blank. -/
theorem readValue_plain {c : Char} {value rest : List Char} (plain : ¬ (c = '"' ∨ c = '\''))
    (solid : ∀ d ∈ c :: value, isBlank d = false) (ends : StartsBlank rest) :
    readValue (c :: value ++ rest) = (c :: value, rest) := by
  have inside : ∀ d ∈ c :: value, (!isBlank d) = true := fun d member => by simp [solid d member]
  have stops : ∀ d ∈ rest.head?, (!isBlank d) = false := fun d member => by simp [ends d member]
  rw [List.cons_append, readValue, if_neg plain, ← List.cons_append, takeWhile_run inside stops,
    dropWhile_run inside stops]

theorem items_nil : items [] = [] := by
  simp [items]

theorem items_of_separator {c : Char} {cs : List Char} (separates : isSeparator c = true) :
    items (c :: cs) = items cs := by
  rw [items, items, List.dropWhile_cons_of_pos separates]

theorem items_dropWhile (cs : List Char) : items (cs.dropWhile isSeparator) = items cs := by
  induction cs with
  | nil => rfl
  | cons c cs ih =>
    by_cases separates : isSeparator c = true
    · rw [List.dropWhile_cons_of_pos separates, ih, items_of_separator separates]
    · rw [List.dropWhile_cons_of_neg separates]

theorem items_stray (cs : List Char) : items ('=' :: cs) = items cs := by
  rw [items, List.dropWhile_cons_of_neg (by decide)]
  simp

/-- Behind a name there is a value if an `=` follows, and none otherwise. -/
theorem items_of_dropWhile {cs : List Char} {c : Char} {rest : List Char}
    (here : cs.dropWhile isSeparator = c :: rest) (other : c ≠ '=') :
    items cs =
      match after? ['='] (trimLeft (rest.dropWhile isNameChar)) with
      | none => (c :: rest.takeWhile isNameChar, []) :: items (rest.dropWhile isNameChar)
      | some after => (c :: rest.takeWhile isNameChar, (readValue (trimLeft after)).1) ::
          items (readValue (trimLeft after)).2 := by
  rw [items]
  split
  · next nothing => simp [here] at nothing
  · next c' rest' first =>
    obtain ⟨rfl, rfl⟩ : c = c' ∧ rest = rest' := List.cons.inj (here.symm.trans first)
    rw [if_neg other]
    split
    · next after equals => simp [equals, after?]
    · next unsigned =>
      cases signed : after? ['='] (trimLeft (rest.dropWhile isNameChar)) with
      | none => rfl
      | some after => exact absurd (after?_eq_some_iff.1 signed) (unsigned after)

theorem not_isNameChar_of_isBlank {c : Char} (blank : isBlank c = true) : isNameChar c = false := by
  simp [isNameChar, blank]

section
variable {c : Char} {name : List Char} (named : ∀ d ∈ c :: name, isNameChar d = true)
include named

/-- A name in front of a text in which it ends. -/
private theorem items_name {rest : List Char} (ends : ∀ d ∈ rest.head?, isNameChar d = false) :
    items (c :: name ++ rest) =
      match after? ['='] (trimLeft rest) with
      | none => (c :: name, []) :: items rest
      | some after => (c :: name, (readValue (trimLeft after)).1) :: items (readValue (trimLeft after)).2 := by
  obtain ⟨first, unsigned⟩ : isSeparator c = false ∧ c ≠ '=' := by
    have letter := named c List.mem_cons_self
    simp [isNameChar] at letter
    simp [isSeparator, letter]
  have later : ∀ d ∈ name, isNameChar d = true := fun d member => named d (List.mem_cons_of_mem _ member)
  have here : (c :: name ++ rest).dropWhile isSeparator = c :: (name ++ rest) :=
    List.dropWhile_cons_of_neg (by simp [first])
  rw [items_of_dropWhile here unsigned, takeWhile_run later ends, dropWhile_run later ends]

/-- A name with an `=` behind it, and maybe blanks in between, is read with a value. -/
theorem items_valued {front : List Char} (blank : ∀ d ∈ front, isBlank d = true)
    (after : List Char) :
    items (c :: name ++ (front ++ '=' :: after)) =
      (c :: name, (readValue (trimLeft after)).1) :: items (readValue (trimLeft after)).2 := by
  have ends : ∀ d ∈ (front ++ '=' :: after).head?, isNameChar d = false := by
    cases front with
    | nil =>
      rintro d ⟨⟩
      rfl
    | cons b front =>
      rintro d ⟨⟩
      exact not_isNameChar_of_isBlank (blank b List.mem_cons_self)
  rw [items_name named ends, trimLeft_append blank, trimLeft_cons (by decide)]
  rfl

theorem items_bare {rest : List Char} (ends : StartsBlank rest)
    (unsigned : ∀ after, trimLeft rest ≠ '=' :: after) :
    items (c :: name ++ rest) = (c :: name, []) :: items rest := by
  rw [items_name named fun d member => not_isNameChar_of_isBlank (ends d member)]
  cases signed : after? ['='] (trimLeft rest) with
  | none => rfl
  | some after => exact absurd (after?_eq_some_iff.1 signed) (unsigned after)

/-- A name with a quoted value behind it is read as an item, whatever comes next. -/
theorem items_quoted {quote : Char} {value rest : List Char} (mark : quote = '"' ∨ quote = '\'')
    (absent : quote ∉ value) :
    items (c :: name ++ '=' :: quote :: (value ++ quote :: rest)) = (c :: name, value) :: items rest := by
  have solid : isBlank quote = false := by
    rcases mark with rfl | rfl <;> decide
  have valued := items_valued named (fun d (member : d ∈ []) => absurd member List.not_mem_nil)
    (quote :: (value ++ quote :: rest))
  rwa [trimLeft_cons solid, readValue_quoted mark absent] at valued

end

theorem infix_of_mem_items {cs : List Char} {item : List Char × List Char}
    (member : item ∈ items cs) : item.2 <:+: cs := by
  -- What stands behind the first character of an item ends the text.
  have behind : ∀ {cs c rest}, cs.dropWhile isSeparator = c :: rest → rest <:+ cs := by
    intro cs c rest here
    have kept : c :: rest <:+ cs := here ▸ List.dropWhile_suffix isSeparator
    exact (List.suffix_cons c rest).trans kept
  fun_induction items cs with
  | case1 cs here => cases member
  | case2 cs rest here ih => exact (ih member).trans (behind here).isInfix
  | case3 cs c rest here other name after equals ih =>
    have signed : '=' :: after <:+ rest :=
      equals ▸ (trimLeft_suffix _).trans (List.dropWhile_suffix isNameChar)
    have valued : trimLeft after <:+ cs :=
      (trimLeft_suffix after).trans ((List.suffix_cons _ _).trans (signed.trans (behind here)))
    have parts := readValue_pieces (trimLeft after)
    rcases List.mem_cons.1 member with rfl | later
    · exact parts.1.trans valued.isInfix
    · exact (ih later).trans (parts.2.trans valued).isInfix
  | case4 cs c rest here other name equals ih =>
    rcases List.mem_cons.1 member with rfl | later
    · exact List.nil_infix
    · exact (ih later).trans ((List.dropWhile_suffix isNameChar).trans (behind here)).isInfix

/-- The first item of a name gives the attribute its value. -/
theorem get?_ofItems (items : List (List Char × List Char)) (name : String) :
    (ofItems items).get? name =
      (items.find? fun item => lower item.1 = name).map fun item => String.ofList item.2 := by
  have held : ∀ d : Dict String, (items.foldl
      (fun d item => d.insertNew (lower item.1) (String.ofList item.2)) d).get? name =
        ((d.get? name).or
          ((items.find? fun item => lower item.1 = name).map fun item => String.ofList item.2)) := by
    induction items with
    | nil => simp
    | cons item items ih =>
      intro d
      rw [List.foldl_cons, ih, Dict.get?_insertNew]
      by_cases same : lower item.1 = name
      · subst same
        cases d.get? (lower item.1) <;> simp
      · simp [same]
  exact held []

/-- The value of an attribute is a piece of the text that the attributes are read from. -/
theorem infix_of_get?_parse {text name value : String} (found : (parse text).get? name = some value) :
    value.toList <:+: text.toList := by
  rw [parse, get?_ofItems] at found
  obtain ⟨item, first, rfl⟩ := Option.map_eq_some_iff.1 found
  simpa using infix_of_mem_items (List.mem_of_find?_eq_some first)

theorem nonEmpty?_eq_some_iff {a : Attributes} {name value : String} :
    a.nonEmpty? name = some value ↔ a.get? name = some value ∧ value ≠ "" := by
  simp [nonEmpty?, Option.filter_eq_some_iff]

end Transclude.Attributes
