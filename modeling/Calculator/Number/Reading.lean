import Calculator.Number.Decimal

/-!
Reading a number.

A number is an optional sign and then `inf`, `infinity` or `nan` in letters of any case, or decimal
digits with an optional point among, before or behind them and an optional exponent. Nothing else is
allowed, blanks and separators included. The value is the double nearest to the decimal, so a number
too large reads as infinity and one too small as zero.
-/

namespace Calculator.Number

/-- A number as written, after its sign. -/
inductive Numeral where
  | infinity
  | nan
  /-- The digits with the point left out, and the power of ten that puts it back. -/
  | decimal (digits : List Char) (exponent : Int)
deriving DecidableEq, Repr

/-- The value of a list of decimal digits. -/
def digitsValue (digits : List Char) : Nat := Nat.ofDigitChars 10 digits 0

/-- Splits a leading sign off; the flag says whether it is a minus. -/
def splitSign : List Char → Bool × List Char
  | '-' :: cs => (true, cs)
  | '+' :: cs => (false, cs)
  | cs => (false, cs)

/-- The exponent that ends a number: nothing, or `e` with an optional sign and digits. -/
def exponent? : List Char → Option Int
  | [] => some 0
  | c :: cs =>
    if c == 'e' || c == 'E' then
      let (negative, digits) := splitSign cs
      if digits.isEmpty || !digits.all Char.isDigit then none
      else
        let size : Int := digitsValue digits
        some (if negative then -size else size)
    else none

/-- A number without a sign. -/
def numeral? (cs : List Char) : Option Numeral :=
  let lower := cs.map Char.toLower
  if lower = "inf".toList || lower = "infinity".toList then some .infinity
  else if lower = "nan".toList then some .nan
  else
    let whole := cs.takeWhile Char.isDigit
    let (fraction, rest) :=
      match cs.dropWhile Char.isDigit with
      | '.' :: cs => (cs.takeWhile Char.isDigit, cs.dropWhile Char.isDigit)
      | cs => ([], cs)
    if whole.isEmpty && fraction.isEmpty then none
    else
      (exponent? rest).map fun exponent =>
        .decimal (whole ++ fraction) (exponent - fraction.length)

/-- The exponent, drawn in to where the nearest double no longer depends on it: beyond `10 ^ 400`
all is infinite, and below `10 ^ -400` all is zero. -/
def clampExponent (digits : List Char) (exponent : Int) : Int :=
  min (max exponent (-(digits.length + 400 : Nat))) 400

/-- The double that a number stands for. -/
def Numeral.value (negative : Bool) : Numeral → Float
  | .infinity => ofMagnitudeBits negative infinityBits
  | .nan => Float.ofBits 0x7FF8000000000000
  | .decimal digits exponent =>
    let decimal : Decimal := ⟨digitsValue digits, clampExponent digits exponent⟩
    ofMagnitudeBits negative decimal.doubleBits

/-- Reads a text as a number. -/
def ofText? (text : String) : Option Float :=
  let (negative, cs) := splitSign text.toList
  (numeral? cs).map (Numeral.value negative)

end Calculator.Number
