import Transclude.Condition.Error
import Transclude.Decimal.Literal
import Transclude.Text.Blank

/-!
# From a condition to its tokens

Blanks separate tokens and otherwise do not count. Each token is as long as it can be; `==` and
`!=` may be written with a third character. A string stands between two equal quote marks, single or
double, with a backslash before every character that would otherwise end it.
-/

namespace Transclude.Condition

open Transclude.Text

/-- Characters that a name starts with. -/
def isNameStart (c : Char) : Bool :=
  isAlphabetic c || c == '_' || c == '$'

/-- Characters that a name goes on with. -/
def isNameChar (c : Char) : Bool :=
  isAlphanumeric c || c == '_' || c == '$' || c == '-'

def isNumberChar (c : Char) : Bool :=
  isDigit c || c == '.'

/-- Reads a string behind its opening quote mark. The character after a backslash stands for itself. -/
def readString (mark : Char) : List Char → Option (List Char × List Char)
  | [] => none
  | [c] => if c = mark then some ([], []) else none
  | c :: e :: cs =>
    if c = mark then some ([], e :: cs)
    else if c = '\\' then (readString mark cs).map fun (s, rest) => (e :: s, rest)
    else (readString mark (e :: cs)).map fun (s, rest) => (c :: s, rest)

def scanString (mark : Char) (rest : List Char) : Except ConditionError (Token × List Char) :=
  match readString mark rest with
  | some (s, after) => .ok (.text (String.ofList s), after)
  | none => .error .unterminatedString

/-- Reads a number token: all digits and points that follow its first character belong to it. -/
def scanNumber (c : Char) (rest : List Char) : Except ConditionError (Token × List Char) :=
  match Decimal.read? (c :: rest.takeWhile isNumberChar) with
  | some x => .ok (.number x, rest.dropWhile isNumberChar)
  | none => .error (.invalidNumber (String.ofList (c :: rest.takeWhile isNumberChar)))

def scanName (c : Char) (rest : List Char) : Token × List Char :=
  (.name (String.ofList (c :: rest.takeWhile isNameChar)), rest.dropWhile isNameChar)

/-- Reads the token that starts with a character, and leaves what follows it. -/
def scan (c : Char) (rest : List Char) : Except ConditionError (Token × List Char) :=
  match c with
  | '(' => .ok (.leftParen, rest)
  | ')' => .ok (.rightParen, rest)
  | '.' => .ok (.dot, rest)
  | '[' => .ok (.leftBracket, rest)
  | ']' => .ok (.rightBracket, rest)
  | '!' =>
    match rest with
    | '=' :: '=' :: rest => .ok (.unequal, rest)
    | '=' :: rest => .ok (.unequal, rest)
    | rest => .ok (.not, rest)
  | '=' =>
    match rest with
    | '=' :: '=' :: rest => .ok (.equal, rest)
    | '=' :: rest => .ok (.equal, rest)
    | _ => .error .assignment
  | '&' =>
    match rest with
    | '&' :: rest => .ok (.and, rest)
    | _ => .error (.undoubled '&')
  | '|' =>
    match rest with
    | '|' :: rest => .ok (.or, rest)
    | _ => .error (.undoubled '|')
  | c =>
    if c = '"' ∨ c = '\'' then scanString c rest
    else if isDigit c || c == '-' then scanNumber c rest
    else if isNameStart c then .ok (scanName c rest)
    else .error (.unexpectedCharacter c)

theorem length_readString_le {mark : Char} {cs s rest : List Char}
    (read : readString mark cs = some (s, rest)) : rest.length ≤ cs.length := by
  fun_induction readString mark cs generalizing s with
  | case1 => simp at read
  | case2 => simp_all
  | case3 c => simp at read
  | case4 e cs =>
    simp only [Option.some.injEq, Prod.mk.injEq] at read
    obtain ⟨-, rfl⟩ := read
    simp
  | case5 e cs _ ih =>
    obtain ⟨⟨t, later⟩, inner, same⟩ := Option.map_eq_some_iff.1 read
    simp only [Prod.mk.injEq] at same
    obtain ⟨-, rfl⟩ := same
    have := ih inner
    simp only [List.length_cons]
    omega
  | case6 c e cs _ _ ih =>
    obtain ⟨⟨t, later⟩, inner, same⟩ := Option.map_eq_some_iff.1 read
    simp only [Prod.mk.injEq] at same
    obtain ⟨-, rfl⟩ := same
    have := ih inner
    simp only [List.length_cons] at *
    omega

theorem length_scanString_le {mark : Char} {rest after : List Char} {token : Token}
    (scanned : scanString mark rest = .ok (token, after)) : after.length ≤ rest.length := by
  unfold scanString at scanned
  split at scanned
  · rename_i read
    cases scanned
    exact length_readString_le read
  · cases scanned

theorem length_scanNumber_le {c : Char} {rest after : List Char} {token : Token}
    (scanned : scanNumber c rest = .ok (token, after)) : after.length ≤ rest.length := by
  unfold scanNumber at scanned
  split at scanned
  · cases scanned
    exact (List.dropWhile_sublist _).length_le
  · cases scanned

/-- A token takes its first character at least. -/
theorem length_scan_le {c : Char} {rest after : List Char} {token : Token}
    (scanned : scan c rest = .ok (token, after)) : after.length ≤ rest.length := by
  unfold scan at scanned
  split at scanned
  case h_10 =>
    split at scanned
    · exact length_scanString_le scanned
    · split at scanned
      · exact length_scanNumber_le scanned
      · split at scanned
        · cases scanned
          exact (List.dropWhile_sublist _).length_le
        · cases scanned
  all_goals (try split at scanned) <;> cases scanned <;> simp <;> omega

/-- The tokens of a condition, or what is wrong with the first thing in it that is none. -/
def tokens (cs : List Char) : Except ConditionError (List Token) :=
  match cs with
  | [] => .ok []
  | c :: rest =>
    if isBlank c then tokens rest
    else match _scanned : scan c rest with
      | .error error => .error error
      | .ok (token, after) =>
        match tokens after with
        | .error error => .error error
        | .ok later => .ok (token :: later)
termination_by cs.length
decreasing_by
  · simp
  · have := length_scan_le _scanned
    simp only [List.length_cons]
    omega

end Transclude.Condition
