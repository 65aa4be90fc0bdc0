import Calculator.Number.Fraction

/-!
Doubles by their parts.

A finite double is a sign, a significand and a power of two. `parts` takes the bits of a double
apart. `Fraction.doubleBits` goes the other way for any fraction: it gives the bits of the double
nearest to it, and on a tie that with the even significand.

The bits of nonnegative doubles are in the order of their values, and the bits of the double with
significand `m` and exponent `q` are `m + (q + 1074) * 2 ^ 52`, subnormals included; a significand
that rounding carries up to `2 ^ 53` needs no case of its own, and neither does the step from the
largest double to infinity.
-/

namespace Calculator.Number

/-- What a double stands for. -/
inductive Parts where
  | nan
  | infinite (negative : Bool)
  /-- The number `significand * 2 ^ exponent`, or its negation. Zero has a sign too. -/
  | finite (negative : Bool) (significand : Nat) (exponent : Int)
deriving DecidableEq, Repr

/-- The lowest bit above the fraction, `2 ^ 52`, which a significand has unless it is subnormal. -/
def leadingBit : Nat := 0x10000000000000

/-- The bit of the sign, `2 ^ 63`. -/
def signBit : Nat := 0x8000000000000000

/-- The bits of positive infinity. -/
def infinityBits : Nat := 2047 * leadingBit

/-- Takes a double apart. -/
def parts (x : Float) : Parts :=
  let bits := x.toBits.toNat
  let negative := decide (signBit ≤ bits)
  let field : Nat := bits / leadingBit % 2048
  let fraction := bits % leadingBit
  if field = 2047 then
    if fraction = 0 then .infinite negative else .nan
  else if field = 0 then .finite negative fraction (-1074)
  else .finite negative (leadingBit + fraction) (field - 1075)

/-- The bits of the double nearest to a fraction. -/
def Fraction.doubleBits (q : Fraction) : Nat :=
  if q.num = 0 then 0
  else
    let exponent := max (q.log2 - 52) (-1074)
    min ((q.scale 2 (-exponent)).round + (exponent + 1074).toNat * leadingBit) infinityBits

/-- The double with the given bits, or its negation. -/
def ofMagnitudeBits (negative : Bool) (bits : Nat) : Float :=
  Float.ofBits (UInt64.ofNat (if negative then signBit + bits else bits))

end Calculator.Number
