import Transclude.Decimal.Binary64
import Transclude.Decimal.Shortest

namespace Transclude.Decimal

/-- The decisions of a number format. The exponent that `lowest` and `highest` bound is that of the
first digit. -/
structure Layout where
  /-- The least exponent that is written without an exponent part, if there is a bound. -/
  lowest : Option Int
  /-- The greatest exponent that is written without an exponent part, if there is a bound. -/
  highest : Option Int
  /-- Whether a whole number without an exponent part ends in `.0`. -/
  keepsPoint : Bool
  /-- Whether a positive exponent has a sign. -/
  signsExponent : Bool
  /-- How equally near digits are told apart. -/
  tie : Tie
  deriving Repr

/-- Plain numbers: never an exponent and no point in a whole number. -/
def Layout.plain : Layout := ⟨none, none, false, false, .up⟩

/-- Numbers that always show that they are fractions: from `1e-4` to below `1e16` without an exponent
and with at least one place. -/
def Layout.pointed : Layout := ⟨some (-4), some 15, true, false, .up⟩

/-- Numbers of a data format: from `1e-5` to below `1e16` without an exponent and with at least one
place, and with a sign before every exponent. -/
def Layout.signed : Layout := ⟨some (-5), some 15, true, true, .even⟩

def digits (n : Nat) : List Char :=
  Nat.toDigits 10 n

def writeInt (i : Int) : List Char :=
  if i < 0 then '-' :: digits i.natAbs else digits i.natAbs

/-- Digits with a point, `point · 10 ^ power` for `power` of at least the point's exponent. -/
def Layout.positional (n : Layout) (shown : List Char) (power : Int) : List Char :=
  if 0 ≤ power then
    shown ++ List.replicate power.toNat '0' ++ if n.keepsPoint then ['.', '0'] else []
  else
    let places := (-power).toNat
    if places < shown.length then
      shown.take (shown.length - places) ++ '.' :: shown.drop (shown.length - places)
    else '0' :: '.' :: List.replicate (places - shown.length) '0' ++ shown

/-- Digits with a point behind the first one, and an exponent. -/
def Layout.scientific (n : Layout) (shown : List Char) (exponent : Int) : List Char :=
  let fraction := match shown.drop 1 with
    | [] => []
    | rest => '.' :: rest
  let sign := if n.signsExponent && 0 ≤ exponent then ['+'] else []
  shown.take 1 ++ fraction ++ 'e' :: sign ++ writeInt exponent

/-- Writes a number that is not negative. -/
def Layout.magnitude (n : Layout) (significand : Nat) (exponent : Int) : List Char :=
  if significand = 0 then n.positional ['0'] 0
  else
    let (point, power) := shortest n.tie significand exponent
    let shown := digits point
    let first := power + shown.length - 1
    if (n.lowest.all fun bound => bound ≤ first) && (n.highest.all fun bound => first ≤ bound) then
      n.positional shown power
    else n.scientific shown first

def Layout.write (n : Layout) (x : Float) : String :=
  match decode x with
  | .nan => "NaN"
  | .infinite negative => if negative then "-inf" else "inf"
  | .finite negative significand exponent =>
    let shown := n.magnitude significand exponent
    String.ofList (if negative then '-' :: shown else shown)

end Transclude.Decimal
