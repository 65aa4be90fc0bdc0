/-!
Fractions of naturals.

The numbers between a decimal and a double are exact: a fraction is scaled by powers of two or ten
of either sign and rounded once at the end. Fractions are not reduced, and a denominator is never
zero.
-/

namespace Calculator.Number

/-- The number `num / den`. -/
structure Fraction where
  num : Nat
  den : Nat
deriving DecidableEq, Repr

namespace Fraction

/-- The fraction equal to a natural. -/
def ofNat (n : Nat) : Fraction := ⟨n, 1⟩

/-- The fraction times `base ^ exponent`. -/
def scale (q : Fraction) (base : Nat) (exponent : Int) : Fraction :=
  ⟨q.num * base.pow exponent.toNat, q.den * base.pow (-exponent).toNat⟩

/-- The greatest natural that is not above the fraction. -/
def floor (q : Fraction) : Nat := q.num / q.den

/-- How the fraction compares with the middle between its floor and the next natural. -/
def compareMiddle (q : Fraction) : Ordering := compare (2 * (q.num % q.den)) q.den

/-- The nearest natural, on a tie the even one. -/
def round (q : Fraction) : Nat :=
  match q.compareMiddle with
  | .lt => q.floor
  | .gt => q.floor + 1
  | .eq => q.floor + q.floor % 2

/-- The greatest `e` with `2 ^ e ≤ q`, for a positive `q`. -/
def log2 (q : Fraction) : Int :=
  let e : Int := q.num.log2 - q.den.log2
  let rest := q.scale 2 (-e)
  if rest.num < rest.den then e - 1 else e

/-- The least `k` with `q < 10 ^ k`, for a positive `q`. -/
def wholeDigits (q : Fraction) : Int :=
  let digitCount (n : Nat) : Int := (Nat.toDigits 10 n).length
  if q.den ≤ q.num then digitCount q.floor else 1 - digitCount ((q.den - 1) / q.num)

end Fraction

end Calculator.Number
