import Transclude.Json.Basic
import Transclude.Text.Blank
import Transclude.Text.Search

/-!
# Attributes of a tag

The text of a tag behind its name is a run of items, each a name or a name, `=` and a value. Blanks
and slashes stand between items. Names are lower-cased in ASCII and the first of two items with the
same name counts. Every text can be read: an `=` without a name is left out, and a quoted value
without its closing quote mark goes to the end.
-/

namespace Transclude

open Transclude.Text

/-- The attributes of a tag, by lower-cased name. -/
structure Attributes where
  entries : Dict String := []

namespace Attributes

/-- What stands between items. -/
def isSeparator (c : Char) : Bool :=
  isBlank c || c == '/'

def isNameChar (c : Char) : Bool :=
  !(isBlank c || c == '=' || c == '/')

/-- Reads a value: behind a quote mark up to the next such mark or, without one, to the end, and
otherwise up to a blank. -/
def readValue : List Char → List Char × List Char
  | [] => ([], [])
  | c :: cs =>
    if c = '"' ∨ c = '\'' then (splitOnce? c cs).getD (cs, [])
    else ((c :: cs).takeWhile (!isBlank ·), (c :: cs).dropWhile (!isBlank ·))

theorem length_readValue_le (cs : List Char) : (readValue cs).2.length ≤ cs.length := by
  cases cs with
  | nil => simp [readValue]
  | cons c cs =>
    rw [readValue]
    split
    · cases found : splitOnce? c cs with
      | none => simp
      | some parts =>
        obtain ⟨value, rest⟩ := parts
        obtain ⟨whole, _⟩ := splitOnce?_eq_some_iff.1 found
        simp only [Option.getD_some, List.length_cons, whole, List.length_append]
        omega
    · exact (List.dropWhile_sublist _).length_le

/-- Reads the items of a text, in order and with repeats. -/
def items (cs : List Char) : List (List Char × List Char) :=
  match _here : cs.dropWhile isSeparator with
  | [] => []
  | c :: rest =>
    if c = '=' then items rest
    else
      let name := c :: rest.takeWhile isNameChar
      match _equals : trimLeft (rest.dropWhile isNameChar) with
      | '=' :: after => (name, (readValue (trimLeft after)).1) :: items (readValue (trimLeft after)).2
      | _ => (name, []) :: items (rest.dropWhile isNameChar)
termination_by cs.length
decreasing_by
  all_goals
    have separated := (List.dropWhile_sublist isSeparator (l := cs)).length_le
    rw [_here, List.length_cons] at separated
  · omega
  · have named := (List.dropWhile_sublist isNameChar (l := rest)).length_le
    have trimmed := length_trimLeft_le (rest.dropWhile isNameChar)
    rw [_equals, List.length_cons] at trimmed
    have behind := length_trimLeft_le after
    have valued := length_readValue_le (trimLeft after)
    omega
  · have named := (List.dropWhile_sublist isNameChar (l := rest)).length_le
    omega

/-- Lower-cases the ASCII letters of a name. -/
def lower (name : List Char) : String :=
  String.ofList (name.map Char.toLower)

def get? (a : Attributes) (name : String) : Option String :=
  a.entries.get? name

/-- The value of an attribute, unless it is empty. -/
def nonEmpty? (a : Attributes) (name : String) : Option String :=
  (a.get? name).filter fun value => !value.isEmpty

def insert (a : Attributes) (name value : String) : Attributes :=
  ⟨a.entries.insert (lower name.toList) value⟩

/-- Puts attributes in one after the other. -/
def ofList (pairs : List (String × String)) : Attributes :=
  pairs.foldl (fun a (name, value) => a.insert name value) {}

/-- The attributes of a list of items, of which the first with a name counts. -/
def ofItems (items : List (List Char × List Char)) : Attributes :=
  ⟨items.foldl (fun d item => d.insertNew (lower item.1) (String.ofList item.2)) []⟩

/-- Reads the attributes of a tag. -/
def parse (text : String) : Attributes :=
  ofItems (items text.toList)

def size (a : Attributes) : Nat :=
  a.entries.length

def isEmpty (a : Attributes) : Bool :=
  a.entries.isEmpty

/-- What follows `data-` in the name of an attribute that holds data. -/
def dataName? (name : String) : Option String :=
  match after? ['d', 'a', 't', 'a', '-'] name.toList with
  | some (c :: rest) => some (String.ofList (c :: rest))
  | _ => none

/-- The data that the attributes hold, if they hold any. -/
def data? (a : Attributes) : Option Data :=
  match a.entries.filterMap fun (name, value) => (dataName? name).map fun name => (name, value) with
  | [] => none
  | data => some data

end Attributes

end Transclude
