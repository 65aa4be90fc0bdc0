import Calculator.Number.Decimal
import Calculator.Text.Field

/-!
Doubles as text.

A double is written in plain notation, without an exponent: in `plain` with the digits of the
shortest decimal that reads back and with a point only where digits follow it, in `fixed?` with a
given number of places, rounded once from the exact value. The sign is written on negative zero too,
and NaN has none. No double is written with more places than a field is wide, not even one without
any digits.
-/

namespace Calculator.Number

/-- The digits of `n` before and behind a point with `places` digits behind it, at least one of them
before it. -/
def splitDigits (places n : Nat) : List Char × List Char :=
  let digits := Nat.toDigits 10 n
  let padded := List.replicate (places + 1 - digits.length) '0' ++ digits
  padded.splitAt (padded.length - places)

/-- Digits before and behind a point, which is left out if none are behind it. -/
def joinDigits (whole fraction : List Char) : List Char :=
  if fraction.isEmpty then whole else whole ++ '.' :: fraction

/-- A decimal in plain notation, without zeros at the end of the fraction. -/
def Decimal.plain (d : Decimal) : List Char :=
  let places := (-d.exponent).toNat
  let (whole, fraction) := splitDigits places (d.toFraction.scale 10 places).floor
  joinDigits whole (fraction.reverse.dropWhile (· == '0')).reverse

/-- The text of a double from the text of its magnitude. -/
def withParts (x : Float) (magnitude : Nat → Int → List Char) : String :=
  let signed (negative : Bool) (text : List Char) : String :=
    String.ofList (if negative then '-' :: text else text)
  match parts x with
  | .nan => "NaN"
  | .infinite negative => signed negative ['i', 'n', 'f']
  | .finite negative significand exponent => signed negative (magnitude significand exponent)

/-- A double in plain notation with as many digits as it takes to read it back. -/
def plain (x : Float) : String :=
  withParts x fun significand exponent =>
    if significand = 0 then ['0'] else (shortest significand exponent).plain

/-- A double in plain notation with `places` digits behind the point, if it can have so many. -/
def fixed? (places : Nat) (x : Float) : Option String :=
  if places ≤ Text.widest then
    some <| withParts x fun significand exponent =>
      let (whole, fraction) :=
        splitDigits places ((binaryFraction significand exponent).scale 10 places).round
      joinDigits whole fraction
  else none

end Calculator.Number
