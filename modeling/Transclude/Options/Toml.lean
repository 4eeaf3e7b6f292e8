import Transclude.Options.Setting

/-!
# Flat TOML documents

A configuration file is a TOML document that holds nothing but option values: lines `key = value`
with a bare or quoted key and a truth value, a number, a string or an array of strings. Tables, dotted
keys, dates and arrays of anything else are no option values, so that a document with one of them is
refused as a whole, as is one that is not TOML or gives a key twice.
-/

namespace Transclude.Toml

open Transclude.Decimal

def isSpace (c : Char) : Bool :=
  c == ' ' || c == '\t'

/-- Characters that stand for themselves in strings and comments: all but the control characters
other than the tab. -/
def isShown (c : Char) : Bool :=
  c == '\t' || (0x20 ≤ c.toNat && c.toNat != 0x7F)

/-- Takes the end of a line, or of the document, off the front. -/
def lineEnd? : List Char → Option (List Char)
  | [] => some []
  | '\n' :: rest => some rest
  | '\r' :: '\n' :: rest => some rest
  | _ => none

/-- Takes blanks, a comment if any, and the end of the line off the front. -/
def lineRest? (cs : List Char) : Option (List Char) :=
  match cs.dropWhile isSpace with
  | '#' :: comment => lineEnd? (comment.dropWhile isShown)
  | rest => lineEnd? rest

/-- Leaves out blanks, line ends and comments, which may stand between the items of an array. -/
def gap? (cs : List Char) : Option (List Char) :=
  match cs.dropWhile isSpace with
  | '#' :: comment =>
    match lineEnd? (comment.dropWhile isShown) with
    | some rest => if rest.length < cs.length then gap? rest else none
    | none => none
  | '\n' :: rest => if rest.length < cs.length then gap? rest else none
  | '\r' :: '\n' :: rest => if rest.length < cs.length then gap? rest else none
  | rest => some rest
termination_by cs.length

def hexValue? (c : Char) : Option Nat :=
  if '0' ≤ c && c ≤ '9' then some (c.toNat - '0'.toNat)
  else if 'a' ≤ c && c ≤ 'f' then some (c.toNat - 'a'.toNat + 10)
  else if 'A' ≤ c && c ≤ 'F' then some (c.toNat - 'A'.toNat + 10)
  else none

/-- Reads a character that is given by a fixed number of hexadecimal digits. -/
def hexChar? (count : Nat) (cs : List Char) : Option (Char × List Char) :=
  match (cs.take count).mapM hexValue? with
  | none => none
  | some ds =>
    let code := ds.foldl (fun n d => 16 * n + d) 0
    if ds.length = count ∧ code.isValidChar then some (Char.ofNat code, cs.drop count) else none

/-- Reads what follows the backslash of an escape. -/
def escape? : List Char → Option (Char × List Char)
  | 'b' :: rest => some ('\x08', rest)
  | 't' :: rest => some ('\t', rest)
  | 'n' :: rest => some ('\n', rest)
  | 'f' :: rest => some ('\x0c', rest)
  | 'r' :: rest => some ('\r', rest)
  | 'e' :: rest => some ('\x1b', rest)
  | '"' :: rest => some ('"', rest)
  | '\\' :: rest => some ('\\', rest)
  | 'x' :: rest => hexChar? 2 rest
  | 'u' :: rest => hexChar? 4 rest
  | 'U' :: rest => hexChar? 8 rest
  | _ => none

/-- Puts a character in front of a string that was read. -/
def push (c : Char) (read : List Char × List Char) : List Char × List Char :=
  (c :: read.1, read.2)

/-- Reads a string behind its opening `"`. -/
def basic? : List Char → Option (List Char × List Char)
  | [] => none
  | '"' :: rest => some ([], rest)
  | '\\' :: rest =>
    match escape? rest with
    | some (c, after) =>
      if after.length ≤ rest.length then (basic? after).map (push c) else none
    | none => none
  | c :: rest => if isShown c then (basic? rest).map (push c) else none
termination_by cs => cs.length

/-- Reads a string behind its opening `'`, in which nothing is escaped. -/
def literal? : List Char → Option (List Char × List Char)
  | [] => none
  | '\'' :: rest => some ([], rest)
  | c :: rest => if isShown c then (literal? rest).map (push c) else none

/-- Leaves out the line end that directly follows the opening of a string of several lines. -/
def skipFirstLine : List Char → List Char
  | '\n' :: rest => rest
  | '\r' :: '\n' :: rest => rest
  | rest => rest

/-- Takes the end of a string of several lines off the front. Up to two of the quote marks in front of
the closing three belong to the string; `none` inside says that the string goes on. -/
def closing? (mark : Char) (cs : List Char) : Option (Option (List Char × List Char)) :=
  let run := (cs.takeWhile (· == mark)).length
  if run < 3 then some none
  else if run ≤ 5 then some (some (List.replicate (run - 3) mark, cs.drop run))
  else none

def skipLines : List Char → List Char
  | ' ' :: rest => skipLines rest
  | '\t' :: rest => skipLines rest
  | '\n' :: rest => skipLines rest
  | '\r' :: '\n' :: rest => skipLines rest
  | rest => rest

/-- Reads a string of several lines behind its opening `"""`. A backslash at the end of a line joins
what follows to it. -/
def multiBasic? (cs : List Char) : Option (List Char × List Char) :=
  match cs with
  | [] => none
  | '"' :: rest =>
    match closing? '"' ('"' :: rest) with
    | none => none
    | some (some read) => some read
    | some none => (multiBasic? rest).map (push '"')
  | '\\' :: rest =>
    match lineEnd? (rest.dropWhile isSpace) with
    | some after =>
      if (skipLines after).length ≤ rest.length then multiBasic? (skipLines after) else none
    | none =>
      match escape? rest with
      | some (c, after) =>
        if after.length ≤ rest.length then (multiBasic? after).map (push c) else none
      | none => none
  | '\n' :: rest => (multiBasic? rest).map (push '\n')
  | '\r' :: '\n' :: rest => (multiBasic? rest).map fun read => push '\r' (push '\n' read)
  | c :: rest => if isShown c then (multiBasic? rest).map (push c) else none
termination_by cs.length

/-- Reads a string of several lines behind its opening `'''`. -/
def multiLiteral? : List Char → Option (List Char × List Char)
  | [] => none
  | '\'' :: rest =>
    match closing? '\'' ('\'' :: rest) with
    | none => none
    | some (some read) => some read
    | some none => (multiLiteral? rest).map (push '\'')
  | '\n' :: rest => (multiLiteral? rest).map (push '\n')
  | '\r' :: '\n' :: rest => (multiLiteral? rest).map fun read => push '\r' (push '\n' read)
  | c :: rest => if isShown c then (multiLiteral? rest).map (push c) else none

/-- Reads a string that may stand as a key, which takes one line only. -/
def keyString? : List Char → Option (List Char × List Char)
  | '"' :: rest => basic? rest
  | '\'' :: rest => literal? rest
  | _ => none

def string? : List Char → Option (List Char × List Char)
  | '"' :: '"' :: '"' :: rest => multiBasic? (skipFirstLine rest)
  | '\'' :: '\'' :: '\'' :: rest => multiLiteral? (skipFirstLine rest)
  | cs => keyString? cs

/-- The digits of a run in which single underscores may stand between two digits. -/
def grouped? (isDigit : Char → Bool) : List Char → Option (List Char)
  | [] => none
  | [c] => if isDigit c then some [c] else none
  | c :: '_' :: rest => if isDigit c then (grouped? isDigit rest).map (c :: ·) else none
  | c :: rest => if isDigit c then (grouped? isDigit rest).map (c :: ·) else none

/-- The digits of a decimal whole number, which has no leading zeros. -/
def wholeDigits? (cs : List Char) : Option (List Char) :=
  match grouped? Text.isDigit cs with
  | some ['0'] => some ['0']
  | some ('0' :: _) => none
  | found => found

/-- The number of a whole number that fits 64 bits, with a sign or without one. -/
def whole? (negative : Bool) (n : Nat) : Option Float :=
  if negative then if n ≤ Nat.pow 2 63 then some (ofInt (-(n : Int))) else none
  else if n < Nat.pow 2 64 then some (ofInt n) else none

/-- Reads a whole number to a base other than ten, behind the letter that names the base. -/
def based? (base : Nat) (cs : List Char) : Option Float :=
  let isDigit := fun c => (hexValue? c).any (· < base)
  match grouped? isDigit cs with
  | none => none
  | some ds => whole? false (ds.foldl (fun n d => base * n + (hexValue? d).getD 0) 0)

/-- Reads a decimal number with a point or an exponent; one that is too great for a float is refused. -/
def fraction? (negative : Bool) (cs : List Char) : Option Float :=
  let isExponent := fun c => c == 'e' || c == 'E'
  let mantissa := cs.takeWhile fun c => !isExponent c
  let exponent := cs.dropWhile fun c => !isExponent c
  let power? : Option Int := match exponent with
    | [] => some 0
    | _ :: rest =>
      let (negative, ds) := signed? rest
      (grouped? Text.isDigit ds).map fun ds => if negative then -(value ds : Int) else value ds
  let whole := mantissa.takeWhile (· != '.')
  let places? := match mantissa.dropWhile (· != '.') with
    | [] => some []
    | _ :: rest => grouped? Text.isDigit rest
  match wholeDigits? whole, places?, power? with
  | some whole, some places, some power =>
    let x := ofScientific negative (value (whole ++ places)) (power - places.length)
    if isFinite x then some x else none
  | _, _, _ => none

/-- Reads a number that stands alone. -/
def number? (cs : List Char) : Option Float :=
  match cs with
  | '0' :: 'x' :: rest => based? 16 rest
  | '0' :: 'o' :: rest => based? 8 rest
  | '0' :: 'b' :: rest => based? 2 rest
  | _ =>
    let (negative, rest) := signed? cs
    if rest = ['i', 'n', 'f'] ∨ rest = ['n', 'a', 'n'] then read? cs
    else match wholeDigits? rest with
      | some ds =>
        if negative && value ds = 0 then some (ofInt 0) else whole? negative (value ds)
      | none => if rest.any (fun c => c == '.' || c == 'e' || c == 'E') then fraction? negative rest
        else none

/-- The characters of unquoted values. -/
def isValueChar (c : Char) : Bool :=
  c.isAlphanum || c == '_' || c == '+' || c == '-' || c == '.' || c == ':'

def isKeyChar (c : Char) : Bool :=
  c.isAlphanum || c == '_' || c == '-'

/-- Reads the items of an array of strings behind its opening bracket or a comma. -/
def strings? (cs : List Char) : Option (List String × List Char) :=
  match gap? cs with
  | none => none
  | some (']' :: rest) => some ([], rest)
  | some rest =>
    match string? rest with
    | none => none
    | some (item, after) =>
      match gap? after with
      | some (',' :: rest) =>
        if rest.length < cs.length then
          (strings? rest).map fun (items, rest) => (String.ofList item :: items, rest)
        else none
      | some (']' :: rest) => some ([String.ofList item], rest)
      | _ => none
termination_by cs.length

def value? (cs : List Char) : Option (Setting × List Char) :=
  match cs with
  | '[' :: rest => (strings? rest).map fun (items, rest) => (.list items, rest)
  | '"' :: _ => (string? cs).map fun (s, rest) => (.text (String.ofList s), rest)
  | '\'' :: _ => (string? cs).map fun (s, rest) => (.text (String.ofList s), rest)
  | _ =>
    let (word, rest) := cs.span isValueChar
    if word = ['t', 'r', 'u', 'e'] then some (.boolean true, rest)
    else if word = ['f', 'a', 'l', 's', 'e'] then some (.boolean false, rest)
    else (number? word).map fun x => (.number x, rest)

def key? (cs : List Char) : Option (List Char × List Char) :=
  match cs.span isKeyChar with
  | ([], rest) => keyString? rest
  | (key, rest) => some (key, rest)

/-- Reads `key = value` and the rest of its line. -/
def entry? (cs : List Char) : Option ((String × Setting) × List Char) :=
  match key? cs with
  | none => none
  | some (key, rest) =>
    match rest.dropWhile isSpace with
    | '=' :: rest =>
      match value? (rest.dropWhile isSpace) with
      | none => none
      | some (value, rest) => (lineRest? rest).map fun rest => ((String.ofList key, value), rest)
    | _ => none

/-- Reads the lines of a document. -/
def entries? (cs : List Char) : Option (List (String × Setting)) :=
  match cs with
  | [] => some []
  | cs =>
    match lineRest? cs with
    | some rest => if rest.length < cs.length then entries? rest else none
    | none =>
      match entry? (cs.dropWhile isSpace) with
      | some (entry, rest) =>
        if rest.length < cs.length then (entries? rest).map (entry :: ·) else none
      | none => none
termination_by cs.length

/-- Reads a document into its entries, in order; a byte order mark in front does not count. -/
def read? (text : String) : Option (List (String × Setting)) :=
  let cs := match text.toList with
    | '\uFEFF' :: rest => rest
    | cs => cs
  match entries? cs with
  | some entries => if (entries.map (·.1)).Nodup then some entries else none
  | none => none

end Transclude.Toml
