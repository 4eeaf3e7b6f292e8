import Transclude.Condition.Token

namespace Transclude

/-- What is wrong with a condition. -/
inductive ConditionError where
  /-- A single `=` stands where a comparison is meant. -/
  | assignment
  /-- A `&` or `|` stands alone. -/
  | undoubled (sign : Char)
  /-- A string has no closing quote mark. -/
  | unterminatedString
  /-- Digits, points and a sign that make up no number. -/
  | invalidNumber (literal : String)
  /-- A character that starts no token. -/
  | unexpectedCharacter (c : Char)
  /-- The condition stops where an operand should stand. -/
  | unexpectedEnd
  /-- A token stands where it cannot. -/
  | unexpectedToken (token : Token)
  /-- Parentheses are nested beyond the limit. -/
  | nestedTooDeeply
  /-- A parenthesis is not closed. -/
  | unclosedParen
  /-- A name that means nothing. -/
  | unknownName (name : String)
  /-- No option name follows the dot. -/
  | optionNameExpected
  /-- No quoted option name follows the bracket. -/
  | quotedNameExpected
  /-- A bracket is not closed. -/
  | unclosedBracket
  /-- An option is looked up in the value of an option. -/
  | nestedLookup
  /-- A host's own rule refused the condition, in its own words. -/
  | refused (text : String)

def ConditionError.message : ConditionError → String
  | .assignment => "assignment is not allowed"
  | .undoubled sign => "expected `" ++ String.ofList [sign, sign] ++ "`"
  | .unterminatedString => "unterminated string"
  | .invalidNumber literal => "invalid number `" ++ literal ++ "`"
  | .unexpectedCharacter c => "unexpected character `" ++ String.ofList [c] ++ "`"
  | .unexpectedEnd => "unexpected end of expression"
  | .unexpectedToken token => "unexpected " ++ token.describe
  | .nestedTooDeeply => "expression nested too deeply"
  | .unclosedParen => "expected `)`"
  | .unknownName name => "unknown name `" ++ name ++ "`"
  | .optionNameExpected => "expected option name after `.`"
  | .quotedNameExpected => "expected quoted option name after `[`"
  | .unclosedBracket => "expected `]`"
  | .nestedLookup => "nested option lookups are not supported"
  | .refused text => text

end Transclude
