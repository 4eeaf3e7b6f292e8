import Transclude.Proofs.Directive.Written
import Transclude.Text.Bytes

/-!
# Attributes read by byte offsets

A reader that counts in bytes cuts a text at offsets: behind a stray `=`, at the end of a name, and at both
ends of a value. `Course` follows it from one round to the next without any bound on their number. Whatever
the text is, no offset is out of place and a round that leads on has taken a character (`Reading.advance`),
so that the rounds end, with what `parse` gives (`parse_rounds`).
-/

namespace Transclude

namespace Text

/-- The byte offset of the first character of a class. -/
def offset? (p : Char → Bool) : List Char → Option Nat
  | [] => none
  | c :: cs => if p c then some 0 else (offset? p cs).map (c.utf8Size + ·)

/-- The byte offset of the first character of a class or, without one, of the end. -/
def offset (p : Char → Bool) (cs : List Char) : Nat :=
  (offset? p cs).getD (size cs)

theorem offset_eq (p : Char → Bool) (cs : List Char) :
    offset p cs = size (cs.takeWhile fun c => !p c) := by
  unfold offset
  induction cs with
  | nil => rfl
  | cons c cs ih =>
    cases here : p c with
    | true => simp [offset?, here]
    | false =>
      rw [List.takeWhile_cons_of_pos (by simp [here]), size_cons c (cs.takeWhile _), ← ih]
      cases later : offset? p cs <;> simp [offset?, here, later]

/-- A text is cut in front of the first character of a class. -/
theorem splitAt?_offset (p : Char → Bool) (cs : List Char) :
    splitAt? cs (offset p cs) =
      some (cs.takeWhile fun c => !p c, cs.dropWhile fun c => !p c) :=
  splitAt?_eq_some_iff.2 ⟨List.takeWhile_append_dropWhile.symm, (offset_eq p cs).symm⟩

/-- A separator has the size of what stands before it as its offset. -/
theorem offset?_eq_splitOnce? (separator : Char) (cs : List Char) :
    offset? (· == separator) cs = (splitOnce? separator cs).map fun (before, _) => size before := by
  induction cs with
  | nil => rfl
  | cons c cs ih =>
    by_cases here : c = separator
    · simp [offset?, splitOnce?, here]
    · simp [offset?, splitOnce?, here, ih, Function.comp_def]

end Text

open Transclude.Text

namespace Attributes

/-- Keeps an attribute unless there is one with its name. -/
def addNew (a : Attributes) (name value : List Char) : Attributes :=
  ⟨a.entries.insertNew (lower name) (String.ofList value)⟩

/-- Reads a value by byte offsets. Without a result, one of them is no place of the text. -/
def cutValue? (cs : List Char) : Option (List Char × List Char) :=
  match cs.head?.filter fun c => c == '"' || c == '\'' with
  | none => splitAt? cs (offset isBlank cs)
  | some quote => do
    let (_, inner) ← splitAt? cs 1
    match offset? (· == quote) inner with
    | none => return (inner, [])
    | some stop =>
      let (value, _) ← splitAt? inner stop
      let (_, rest) ← splitAt? inner (stop + 1)
      return (value, rest)

/-- How far the attributes of a text are read: what is left of it, and what was found. -/
structure Reading where
  rest : List Char
  attributes : Attributes := {}

inductive Round where
  | next (r : Reading)
  | finished

namespace Reading

/-- Reads an item by byte offsets, or passes over a stray `=`. Without a result, one of the offsets is no
place of the text. -/
def round? (r : Reading) : Option Round := do
  let text := r.rest.dropWhile isSeparator
  if text = [] then return .finished
  let stop := offset (!isNameChar ·) text
  if stop = 0 then
    let (_, rest) ← splitAt? text 1
    return .next { r with rest }
  let (name, behind) ← splitAt? text stop
  match after? ['='] (trimLeft behind) with
  | none => return .next ⟨behind, r.attributes.addNew name []⟩
  | some after =>
    let (value, rest) ← cutValue? (trimLeft after)
    return .next ⟨rest, r.attributes.addNew name value⟩

end Reading

/-- The states of a reading at its rounds, from a given one on, and what is found in the end. -/
inductive Course : Reading → List Reading → Attributes → Prop where
  | finished {r : Reading} (last : r.round? = some .finished) : Course r [r] r.attributes
  | next {r t : Reading} {states : List Reading} {result : Attributes}
      (moves : r.round? = some (.next t)) (later : Course t states result) :
      Course r (r :: states) result

/-- A text that leaves `rest` once a character or more are taken off its front. -/
def Leaves (text rest : List Char) : Prop :=
  ∃ c front, text = c :: front ++ rest

/-- What a round comes to: there is no item left, or it has taken a stray `=`, or an item. -/
inductive Advance (r : Reading) : Round → Prop where
  | finished (nothing : items r.rest = []) : Advance r .finished
  | stray {rest : List Char} (fewer : Leaves r.rest rest) (same : items r.rest = items rest) :
      Advance r (.next { r with rest })
  | item {name value rest : List Char} (fewer : Leaves r.rest rest)
      (first : items r.rest = (name, value) :: items rest) :
      Advance r (.next ⟨rest, r.attributes.addNew name value⟩)

/-- No offset in a value is out of place: quote marks take one byte each. -/
theorem cutValue?_eq (cs : List Char) : cutValue? cs = some (readValue cs) := by
  cases cs with
  | nil => rfl
  | cons c cs =>
    by_cases mark : c = '"' ∨ c = '\''
    · have quoted : (c :: cs).head?.filter (fun c => c == '"' || c == '\'') = some c := by
        simp [mark]
      have one : c.utf8Size = 1 := by
        rcases mark with rfl | rfl <;> rfl
      have first : splitAt? (c :: cs) 1 = some ([c], cs) :=
        splitAt?_eq_some_iff.2 ⟨rfl, one⟩
      rw [cutValue?, quoted, readValue, if_pos mark]
      simp only [first, offset?_eq_splitOnce?, Option.bind_eq_bind, Option.bind_some]
      cases found : splitOnce? c cs with
      | none => rfl
      | some parts =>
        obtain ⟨value, rest⟩ := parts
        obtain ⟨rfl, -⟩ := splitOnce?_eq_some_iff.1 found
        have behind : splitAt? (value ++ c :: rest) (Text.size value + 1) = some (value ++ [c], rest) :=
          splitAt?_eq_some_iff.2 ⟨by simp, by simp [one]⟩
        simp [behind]
    · have plain : (c :: cs).head?.filter (fun c => c == '"' || c == '\'') = none := by
        simpa using mark
      rw [cutValue?, plain, readValue, if_neg mark]
      exact splitAt?_offset isBlank (c :: cs)

theorem isNameChar_iff {c : Char} :
    isNameChar c = true ↔ isBlank c = false ∧ c ≠ '=' ∧ c ≠ '/' := by
  simp [isNameChar, and_assoc]

theorem isName_iff {name : List Char} :
    IsName name ↔ name ≠ [] ∧ ∀ c ∈ name, isNameChar c = true := by
  simp only [IsName, isNameChar_iff]

section
variable {cs : List Char} {c : Char} {rest : List Char} (here : cs.dropWhile isSeparator = c :: rest)
include here

/-- Behind separators there is a stray `=`, or else a name. -/
theorem isName_of_dropWhile (other : c ≠ '=') : IsName (c :: rest.takeWhile isNameChar) := by
  have solid : isSeparator c = false := by
    have first := List.head?_dropWhile_not isSeparator cs
    rwa [here] at first
  obtain ⟨visible, apart⟩ : isBlank c = false ∧ c ≠ '/' := by simpa [isSeparator] using solid
  refine isName_iff.2 ⟨List.cons_ne_nil _ _, fun d member => ?_⟩
  rcases List.mem_cons.1 member with rfl | later
  · exact isNameChar_iff.2 ⟨visible, other, apart⟩
  · exact List.all_eq_true.1 List.all_takeWhile d later

/-- What stands behind the first character that is no separator ends a text that leaves it. -/
theorem leaves_of_suffix {after : List Char} (ends : after <:+ rest) : Leaves cs after := by
  obtain ⟨front, whole⟩ : c :: rest <:+ cs := here ▸ List.dropWhile_suffix isSeparator
  obtain ⟨inner, rfl⟩ := ends
  obtain ⟨d, taken, same⟩ : ∃ d taken, front ++ c :: inner = d :: taken :=
    List.exists_cons_of_ne_nil (by simp)
  exact ⟨d, taken, by rw [← whole, ← same]; simp⟩

end

theorem Leaves.length_lt {text rest : List Char} (leaves : Leaves text rest) :
    rest.length < text.length := by
  obtain ⟨c, front, rfl⟩ := leaves
  simp only [List.length_append, List.length_cons]
  omega

/-! ## What a round comes to -/

/-- A round at a name reads an item: the name is cut off at its end, and a value at offsets that are places
of the text. -/
theorem Reading.advance_named {r : Reading} {c : Char} {rest : List Char}
    (here : r.rest.dropWhile isSeparator = c :: rest) (other : c ≠ '=') :
    ∃ round, r.round? = some round ∧ Advance r round := by
  have read := items_of_dropWhile here other
  obtain ⟨_, _, parts, letters⟩ := (isName_of_dropWhile here other).cons
  cases parts
  have cut : splitAt? (c :: rest) (offset (!isNameChar ·) (c :: rest)) =
      some (c :: rest.takeWhile isNameChar, rest.dropWhile isNameChar) := by
    rw [splitAt?_offset]
    simp [letters c List.mem_cons_self]
  have inside : offset (!isNameChar ·) (c :: rest) ≠ 0 := by
    intro start
    simp [start, splitAt?] at cut
  have unread : rest.dropWhile isNameChar <:+ rest := List.dropWhile_suffix isNameChar
  cases signed : after? ['='] (trimLeft (rest.dropWhile isNameChar)) with
  | none =>
    rw [signed] at read
    have round : r.round? = some (.next ⟨rest.dropWhile isNameChar,
        r.attributes.addNew (c :: rest.takeWhile isNameChar) []⟩) := by
      simp [round?, here, inside, cut, signed]
    exact ⟨_, round, .item (leaves_of_suffix here unread) read⟩
  | some after =>
    rw [signed] at read
    have round : r.round? = some (.next ⟨(readValue (trimLeft after)).2,
        r.attributes.addNew (c :: rest.takeWhile isNameChar) (readValue (trimLeft after)).1⟩) := by
      simp [round?, here, inside, cut, signed, cutValue?_eq]
    have equals : '=' :: after <:+ rest := by
      have trimmed := (trimLeft_suffix (rest.dropWhile isNameChar)).trans unread
      rwa [after?_eq_some_iff.1 signed] at trimmed
    have later : (readValue (trimLeft after)).2 <:+ rest :=
      (readValue_pieces _).2.trans ((trimLeft_suffix after).trans
        ((List.suffix_cons '=' after).trans equals))
    exact ⟨_, round, .item (leaves_of_suffix here later) read⟩

/-- No offset of a round is out of place, and a round that leads on has taken a character: either a stray
`=`, which is one byte, or an item, whose name is not empty. -/
theorem Reading.advance (r : Reading) : ∃ round, r.round? = some round ∧ Advance r round := by
  cases here : r.rest.dropWhile isSeparator with
  | nil =>
    have nothing : items r.rest = [] := by rw [← items_dropWhile, here, items_nil]
    exact ⟨.finished, by simp [round?, here], .finished nothing⟩
  | cons c rest =>
    by_cases stray : c = '='
    · subst stray
      have cut : splitAt? ('=' :: rest) 1 = some (['='], rest) := splitAt?_append ['='] rest
      have start : offset (!isNameChar ·) ('=' :: rest) = 0 := rfl
      have same : items r.rest = items rest := by rw [← items_dropWhile, here, items_stray]
      exact ⟨.next { r with rest }, by simp [round?, here, start, cut],
        .stray (leaves_of_suffix here List.suffix_rfl) same⟩
    · exact advance_named here stray

/-- The attributes found so far with the items that are left. -/
def Reading.result (r : Reading) : Attributes :=
  (items r.rest).foldl (fun a item => a.addNew item.1 item.2) r.attributes

/-- A round that leads on takes a character or more, and does not change what is found in the end. -/
theorem Advance.of_next {r t : Reading} (advance : Advance r (.next t)) :
    Leaves r.rest t.rest ∧ t.result = r.result := by
  cases advance with
  | stray fewer same => exact ⟨fewer, by rw [Reading.result, Reading.result, same]⟩
  | item fewer first => exact ⟨fewer, by rw [Reading.result, Reading.result, first]; rfl⟩

/-- Every reading ends, after no more rounds than there are characters left and one. -/
theorem Reading.exists_course (r : Reading) :
    ∃ states, Course r states r.result ∧ states.length ≤ r.rest.length + 1 := by
  -- By what is left, since an item can take any number of characters.
  induction sized : r.rest.length using Nat.strongRecOn generalizing r with
  | _ n ih =>
    obtain ⟨round, ahead, advance⟩ := r.advance
    cases round with
    | finished =>
      cases advance with
      | finished nothing =>
        have none : r.result = r.attributes := by rw [result, nothing]; rfl
        exact ⟨[r], none ▸ .finished ahead, by simp⟩
    | next t =>
      obtain ⟨fewer, same⟩ := advance.of_next
      have shorter : t.rest.length < n := sized ▸ fewer.length_lt
      obtain ⟨states, later, few⟩ := ih _ shorter t rfl
      refine ⟨r :: states, .next ahead (same ▸ later), ?_⟩
      simp only [List.length_cons]
      omega

theorem result_start (text : String) : Reading.result ⟨text.toList, {}⟩ = parse text :=
  List.foldl_hom Attributes.mk fun _ _ => rfl

/-- In lower case a character of a name is one too, and no capital. -/
theorem isNameChar_toLower {c : Char} (letter : isNameChar c = true) :
    isNameChar c.toLower = true ∧ c.toLower.isUpper = false := by
  cases capital : c.isUpper with
  | false =>
    have same : c.toLower = c := dif_neg (of_decide_eq_false capital)
    rw [same]
    exact ⟨letter, capital⟩
  | true =>
    have capitals : ∀ n < 91, 65 ≤ n →
        isNameChar (Char.ofNat n).toLower = true ∧ (Char.ofNat n).toLower.isUpper = false := by
      decide
    obtain ⟨low, high⟩ := of_decide_eq_true capital
    have lowered := capitals c.toNat (Nat.lt_succ_of_le high) low
    rwa [Char.ofNat_toNat] at lowered

theorem isName_of_mem_items {cs : List Char} {item : List Char × List Char}
    (member : item ∈ items cs) : IsName item.1 := by
  fun_induction items cs with
  | case1 cs here => cases member
  | case2 cs rest here ih => exact ih member
  | case3 cs c rest here other name after equals ih | case4 cs c rest here other name equals ih =>
    rcases List.mem_cons.1 member with rfl | later
    · exact isName_of_dropWhile here other
    · exact ih later

/-- An attribute has the lower-cased name of an item. -/
theorem isName_of_get?_parse {text name value : String} (found : (parse text).get? name = some value) :
    IsName name.toList ∧ ∀ c ∈ name.toList, c.isUpper = false := by
  obtain ⟨earlier, written, v, later, all, rfl, -⟩ := get?_ofItems_eq_some_iff.1 found
  have member : (written, v) ∈ items text.toList := by rw [all]; simp
  obtain ⟨nonempty, letters⟩ := isName_iff.1 (isName_of_mem_items member)
  have lowered : ∀ c ∈ (lower written).toList, isNameChar c = true ∧ c.isUpper = false := by
    intro c inside
    obtain ⟨d, letter, rfl⟩ : ∃ d ∈ written, d.toLower = c := by simpa [lower] using inside
    exact isNameChar_toLower (letters d letter)
  constructor
  · exact isName_iff.2 ⟨by simpa [lower] using nonempty, fun c inside => (lowered c inside).1⟩
  · exact fun c inside => (lowered c inside).2

/-- Every text is read in rounds. Whatever is left, no offset of a round is out of place, and a round that
leads on takes a character or more, so that the rounds end. The attributes that they end with have names in
lower case and pieces of the text as their values. -/
theorem parse_rounds (text : String) :
    (∀ r : Reading, ∃ round, r.round? = some round ∧
      ∀ t, round = .next t → Leaves r.rest t.rest) ∧
    (∃ states, Course { rest := text.toList } states (parse text) ∧
      states.length ≤ text.length + 1) ∧
    ∀ name value, (name, value) ∈ (parse text).entries →
      IsName name.toList ∧ (∀ c ∈ name.toList, c.isUpper = false) ∧
        value.toList <:+: text.toList ∧ ('>' ∉ text.toList → '>' ∉ value.toList) := by
  refine ⟨fun r => ?_, ?_, fun name value member => ?_⟩
  · obtain ⟨round, ahead, advance⟩ := r.advance
    refine ⟨round, ahead, ?_⟩
    rintro t rfl
    exact advance.of_next.1
  · obtain ⟨states, course, few⟩ := Reading.exists_course { rest := text.toList }
    rw [result_start] at course
    exact ⟨states, course, by rwa [← String.length_toList]⟩
  · have found : (parse text).get? name = some value :=
      (Dict.mem_iff_get? (sorted_parse text)).1 member
    obtain ⟨named, small⟩ := isName_of_get?_parse found
    have piece := infix_of_get?_parse found
    exact ⟨named, small, piece, fun absent inside => absent (piece.subset inside)⟩

/-- A text with a stray `=`, a name without a value, a quote mark that is not closed, and characters of two
bytes wherever a character can stand. -/
theorem parse_rounds_unclosed :
    let text := "=é É=\"à>/"
    (∃ states, Course { rest := text.toList } states (parse text) ∧ states.length ≤ 10) ∧
      ("É", "à>/") ∈ (parse text).entries ∧ IsName "É".toList ∧ "à>/".toList <:+: text.toList := by
  intro text
  obtain ⟨-, ends, sound⟩ := parse_rounds text
  have nine : text.length = 9 := by decide
  rw [nine] at ends
  have held : ("É", "à>/") ∈ (parse text).entries := by decide +kernel
  obtain ⟨named, -, piece, -⟩ := sound _ _ held
  exact ⟨ends, held, named, piece⟩

end Attributes

end Transclude
