import Transclude.Decimal.Binary64
import Transclude.Text.Letters

/-!
# Number texts

A number text has an optional sign and either digits with an optional point and exponent, or one of
the words `inf`, `infinity` and `nan` in any case. At least one digit stands before or behind the
point, and at least one in an exponent.
-/

namespace Transclude.Decimal

open Transclude.Text

/-- The value of a run of decimal digits. -/
def value (ds : List Char) : Nat :=
  ds.foldl (fun n d => 10 * n + (d.toNat - '0'.toNat)) 0

/-- Takes a sign off the front; the answer says whether it was a minus. -/
def signed? : List Char → Bool × List Char
  | '-' :: cs => (true, cs)
  | '+' :: cs => (false, cs)
  | cs => (false, cs)

/-- Reads a decimal exponent: a sign if any, and digits only. -/
def exponent? (cs : List Char) : Option Int :=
  let (negative, ds) := signed? cs
  if ds.isEmpty || !ds.all isDigit then none
  else some (if negative then -(value ds : Int) else value ds)

/-- Reads digits with an optional point and exponent. -/
def unsigned? (negative : Bool) (cs : List Char) : Option Float :=
  let (whole, rest) := cs.span isDigit
  let (places, rest) := match rest with
    | '.' :: rest => rest.span isDigit
    | rest => ([], rest)
  if whole.isEmpty && places.isEmpty then none
  else
    let power? := match rest with
      | [] => some 0
      | 'e' :: rest => exponent? rest
      | 'E' :: rest => exponent? rest
      | _ => none
    power?.map fun power => ofScientific negative (value (whole ++ places)) (power - places.length)

def read? (cs : List Char) : Option Float :=
  let (negative, rest) := signed? cs
  let word := rest.map Char.toLower
  if word = ['i', 'n', 'f'] || word = ['i', 'n', 'f', 'i', 'n', 'i', 't', 'y'] then
    some (Float.ofBits (if negative then 0xFFF0000000000000 else 0x7FF0000000000000))
  else if word = ['n', 'a', 'n'] then some (Float.ofBits 0x7FF8000000000000)
  else unsigned? negative rest

end Transclude.Decimal
