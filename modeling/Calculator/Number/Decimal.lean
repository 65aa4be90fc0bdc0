import Calculator.Number.Double

/-!
Decimals, and the one that stands for a double.

A decimal is a natural times a power of ten. Every decimal has a nearest double, and every finite
double is a decimal; among the decimals that read back as the same double, `shortest` is the one
with the fewest digits, and of those with as few digits the one closest to the double. Of two that
are equally close it is the greater.

The search looks at one grid of decimals after the other, coarsest first. Rounding respects order,
so if any point of a grid reads back as the double, one of the double's two neighbours on the grid
does.
-/

namespace Calculator.Number

/-- The number `digits * 10 ^ exponent`. -/
structure Decimal where
  digits : Nat
  exponent : Int
deriving DecidableEq, Repr

/-- The decimal as a fraction. -/
def Decimal.toFraction (d : Decimal) : Fraction := (Fraction.ofNat d.digits).scale 10 d.exponent

/-- The bits of the double nearest to a decimal. -/
def Decimal.doubleBits (d : Decimal) : Nat := d.toFraction.doubleBits

/-- The number `significand * 2 ^ exponent` as a fraction. -/
def binaryFraction (significand : Nat) (exponent : Int) : Fraction :=
  (Fraction.ofNat significand).scale 2 exponent

/-- The number `significand * 2 ^ exponent` as a decimal. -/
def binaryDecimal (significand : Nat) (exponent : Int) : Decimal :=
  if exponent < 0 then ⟨significand * Nat.pow 5 (-exponent).toNat, exponent⟩
  else ⟨(binaryFraction significand exponent).num, 0⟩

/-- The point of the grid `10 ^ exponent` that reads back as `bits`, if the grid has one. Of the two
neighbours of `q` the closer one is preferred, on a tie the upper one. -/
def gridPoint? (q : Fraction) (bits : Nat) (exponent : Int) : Option Decimal :=
  let place := q.scale 10 (-exponent)
  let lower : Decimal := ⟨place.floor, exponent⟩
  let upper : Decimal := ⟨place.floor + 1, exponent⟩
  match decide (lower.doubleBits = bits), decide (upper.doubleBits = bits) with
  | true, true => some (if place.compareMiddle = .lt then lower else upper)
  | true, false => some lower
  | false, true => some upper
  | false, false => none

/-- The decimal with the fewest digits that reads back as the double `significand * 2 ^ exponent`.
Seventeen digits are always enough. -/
def shortest (significand : Nat) (exponent : Int) : Decimal :=
  let q := binaryFraction significand exponent
  let grids := (List.range 17).map fun n => q.wholeDigits - (n + 1 : Nat)
  (grids.findSome? (gridPoint? q q.doubleBits)).getD (binaryDecimal significand exponent)

end Calculator.Number
