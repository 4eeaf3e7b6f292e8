import Transclude.Decimal.Layout
import Transclude.Json.Basic
import Transclude.Text.Quoted

namespace Transclude.Json

open Transclude.Decimal Transclude.Text

/-- How one character is spelled in the text of a data value: the quote mark, the backslash and the
control characters below the space are escaped and nothing else is. -/
def spell (c : Char) : List Char :=
  match c with
  | '"' => ['\\', '"']
  | '\\' => ['\\', '\\']
  | '\n' => ['\\', 'n']
  | '\r' => ['\\', 'r']
  | '\t' => ['\\', 't']
  | '\x08' => ['\\', 'b']
  | '\x0c' => ['\\', 'f']
  | c =>
    if c.toNat < 0x20 then
      let shown := hexDigits c.toNat
      '\\' :: 'u' :: List.replicate (4 - shown.length) '0' ++ shown
    else [c]

def quote (s : String) : String :=
  String.ofList ('"' :: s.toList.flatMap spell ++ ['"'])

/-- A fraction; there is no form for one that is not finite. -/
def number (x : Float) : String :=
  if isFinite x then Layout.signed.write x else "null"

mutual

/-- The compact form, without blanks, which a page shows. -/
def compact : Json → String
  | .null => "null"
  | .boolean b => if b then "true" else "false"
  | .integer i => String.ofList (writeInt i)
  | .fraction x => number x
  | .text s => quote s
  | .array items => "[" ++ String.intercalate "," (compactItems items) ++ "]"
  | .object fields => "\x7b" ++ String.intercalate "," (compactFields fields) ++ "\x7d"

def compactItems : List Json → List String
  | [] => []
  | item :: items => compact item :: compactItems items

def compactFields : List (String × Json) → List String
  | [] => []
  | (name, value) :: fields => (quote name ++ ":" ++ compact value) :: compactFields fields

end

mutual

/-- The descriptive form, which names the kind of every value, for messages. -/
def describe : Json → String
  | .null => "Null"
  | .boolean b => if b then "Bool(true)" else "Bool(false)"
  | .integer i => "Number(" ++ String.ofList (writeInt i) ++ ")"
  | .fraction x => "Number(" ++ number x ++ ")"
  | .text s => "String(" ++ quoted s ++ ")"
  | .array items => "Array [" ++ String.intercalate ", " (describeItems items) ++ "]"
  | .object fields => "Object \x7b" ++ String.intercalate ", " (describeFields fields) ++ "\x7d"

def describeItems : List Json → List String
  | [] => []
  | item :: items => describe item :: describeItems items

def describeFields : List (String × Json) → List String
  | [] => []
  | (name, value) :: fields => (quoted name ++ ": " ++ describe value) :: describeFields fields

end

end Transclude.Json
