import Transclude.Condition.Operand
import Transclude.Condition.Scan
import Transclude.Options.Basic
import Transclude.Resolve.Error

/-!
# Evaluation of conditions

Conditions bind, from weak to strong, by `||`, `&&`, equality, `!` and operands; the binary signs
associate to the left. An operand is a number, a string, a constant, `config` with at most one option
name, or a condition in parentheses. Both sides of a sign are read whatever their values are, so that a
malformed condition is an error under all options.
-/

namespace Transclude.Condition

/-- How deep parentheses may be nested. -/
def maxDepth : Nat := 64

/-- What a reader takes off the front of a list of tokens: a value, and fewer tokens. -/
abbrev Reading (tokens : List Token) :=
  Operand × { rest : List Token // rest.length < tokens.length }

/-- Reads an operand, or a condition of some strength, and evaluates it. -/
abbrev Reader := (tokens : List Token) → Except ConditionError (Reading tokens)

/-- What a binary sign does with the values of its sides; `none` for a token that is none of the signs
in question. -/
abbrev Join := Token → Option (Operand → Operand → Operand)

/-- Goes on with signs and right sides as long as a sign follows. -/
def continueChain (join : Join) (read : Reader) (value : Operand) (tokens : List Token) :
    Except ConditionError (Operand × { rest : List Token // rest.length ≤ tokens.length }) :=
  match tokens with
  | [] => .ok (value, ⟨[], Nat.le_refl _⟩)
  | token :: rest =>
    match join token with
    | none => .ok (value, ⟨token :: rest, Nat.le_refl _⟩)
    | some combine =>
      match read rest with
      | .error error => .error error
      | .ok (right, ⟨later, shorter⟩) =>
        match continueChain join read (combine value right) later with
        | .error error => .error error
        | .ok (value, ⟨last, bound⟩) =>
          .ok (value, ⟨last, by simp only [List.length_cons]; omega⟩)
termination_by tokens.length
decreasing_by simp only [List.length_cons]; omega

/-- Reads operands with signs between them, from the left. -/
def chain (join : Join) (read : Reader) : Reader := fun tokens =>
  match read tokens with
  | .error error => .error error
  | .ok (value, ⟨rest, shorter⟩) =>
    match continueChain join read value rest with
    | .error error => .error error
    | .ok (value, ⟨last, bound⟩) => .ok (value, ⟨last, by omega⟩)

/-- The value of `||` is its first side if that counts as true and otherwise its second. -/
def joinOr : Join
  | .or => some fun left right => if left.truthy then left else right
  | _ => none

/-- The value of `&&` is its second side if the first counts as true and otherwise the first. -/
def joinAnd : Join
  | .and => some fun left right => if left.truthy then right else left
  | _ => none

def joinEqual : Join
  | .equal => some fun left right => .boolean (left.same right)
  | .unequal => some fun left right => .boolean !(left.same right)
  | _ => none

/-- Takes the `!` signs off the front and counts them. -/
def countNot : List Token → Nat × List Token
  | .not :: tokens => ((countNot tokens).1 + 1, (countNot tokens).2)
  | tokens => (0, tokens)

theorem length_countNot_le (tokens : List Token) : (countNot tokens).2.length ≤ tokens.length := by
  fun_induction countNot tokens with
  | case1 tokens ih => simp only [List.length_cons]; omega
  | case2 tokens => exact Nat.le_refl _

/-- Reads an operand behind any number of `!` signs; with one sign or more the value is whether the
operand counts as true, turned round once for each sign. -/
def negated (read : Reader) : Reader := fun tokens =>
  match read (countNot tokens).2 with
  | .error error => .error error
  | .ok (value, ⟨rest, shorter⟩) =>
    let count := (countNot tokens).1
    .ok (if count = 0 then value else .boolean (value.truthy == (count % 2 == 0)),
      ⟨rest, Nat.lt_of_lt_of_le shorter (length_countNot_le tokens)⟩)

/-- The value of an option, null if it has none. -/
def option (o : Options) (name : String) : Operand :=
  match o.get? name with
  | some value => .ofSetting value
  | none => .null

/-- Refuses a second look-up behind a first one. -/
def endLookup (value : Operand) (rest : List Token) : Except ConditionError (Operand × List Token) :=
  match rest with
  | .dot :: _ => .error .nestedLookup
  | .leftBracket :: _ => .error .nestedLookup
  | rest => .ok (value, rest)

/-- Reads what may follow `config`: the name of an option behind a dot or, quoted, in brackets. -/
def lookup (o : Options) (tokens : List Token) : Except ConditionError (Operand × List Token) :=
  match tokens with
  | .dot :: .name key :: rest => endLookup (option o key) rest
  | .dot :: _ => .error .optionNameExpected
  | .leftBracket :: .text key :: .rightBracket :: rest => endLookup (option o key) rest
  | .leftBracket :: .text _ :: _ => .error .unclosedBracket
  | .leftBracket :: _ => .error .quotedNameExpected
  | tokens => .ok (.boolean true, tokens)

theorem length_endLookup_le {value result : Operand} {rest last : List Token}
    (read : endLookup value rest = .ok (result, last)) : last.length ≤ rest.length := by
  unfold endLookup at read
  split at read <;> cases read
  exact Nat.le_refl _

theorem length_lookup_le {o : Options} {value : Operand} {tokens rest : List Token}
    (read : lookup o tokens = .ok (value, rest)) : rest.length ≤ tokens.length := by
  unfold lookup at read
  split at read
  · have := length_endLookup_le read
    simp only [List.length_cons]
    omega
  · cases read
  · have := length_endLookup_le read
    simp only [List.length_cons]
    omega
  · cases read
  · cases read
  · cases read
    exact Nat.le_refl _

/-- Reads an operand; `group` reads what an opening parenthesis starts. -/
def operand (o : Options) (group : Reader) : Reader := fun tokens =>
  match tokens with
  | [] => .error .unexpectedEnd
  | .number x :: rest => .ok (.number x, ⟨rest, by simp⟩)
  | .text s :: rest => .ok (.text s, ⟨rest, by simp⟩)
  | .leftParen :: rest =>
    match group rest with
    | .error error => .error error
    | .ok (value, ⟨.rightParen :: last, shorter⟩) =>
      .ok (value, ⟨last, by simp only [List.length_cons] at *; omega⟩)
    | .ok _ => .error .unclosedParen
  | .name name :: rest =>
    if name = "true" then .ok (.boolean true, ⟨rest, by simp⟩)
    else if name = "false" then .ok (.boolean false, ⟨rest, by simp⟩)
    else if name = "null" ∨ name = "undefined" then .ok (.null, ⟨rest, by simp⟩)
    else if name = "config" then
      match found : lookup o rest with
      | .error error => .error error
      | .ok (value, last) =>
        .ok (value, ⟨last, by
          have := length_lookup_le found
          simp only [List.length_cons]
          omega⟩)
    else .error (.unknownName name)
  | token :: _ => .error (.unexpectedToken token)

/-- Reads a condition of the weakest strength; `group` reads what an opening parenthesis starts. -/
def disjunction (o : Options) (group : Reader) : Reader :=
  chain joinOr (chain joinAnd (chain joinEqual (negated (operand o group))))

/-- Reads a condition in which parentheses may be nested up to a depth. -/
def expression (o : Options) : Nat → Reader
  | 0 => disjunction o fun _ => .error .nestedTooDeeply
  | depth + 1 => disjunction o (expression o depth)

/-- Reads a condition that takes up all tokens. -/
def readAll (o : Options) (tokens : List Token) : Except ConditionError Operand :=
  match expression o maxDepth tokens with
  | .error error => .error error
  | .ok (_, ⟨token :: _, _⟩) => .error (.unexpectedToken token)
  | .ok (value, ⟨[], _⟩) => .ok value

/-- Whether a condition holds under some options. -/
def evaluate (condition : String) (o : Options) : Except ResolveError Bool :=
  match tokens condition.toList with
  | .error cause => .error (.condition condition cause)
  | .ok tokens =>
    match readAll o tokens with
    | .error cause => .error (.condition condition cause)
    | .ok value => .ok value.truthy

end Transclude.Condition
