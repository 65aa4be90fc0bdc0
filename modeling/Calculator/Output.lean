import Calculator.Number.Text

/-!
How results are written.

The settings say how many places a value gets and whether the expression is repeated before it. A
line with its expression can be taken apart again: no expression holds a blank. Settings may ask for
any number of places, but with more than a number can have no value is written.
-/

namespace Calculator

/-- The settings of the output. -/
structure OutputSettings where
  /-- The digits behind the point; unset, a value gets as many as it takes to read it back. -/
  precision : Option Nat := none
  /-- Whether the expression is written before its value. -/
  echo : Bool := false
deriving DecidableEq, Repr

namespace OutputSettings

/-- A value as text, if it can be written. -/
def formatValue? (settings : OutputSettings) (value : Float) : Option String :=
  match settings.precision with
  | some places => Number.fixed? places value
  | none => some (Number.plain value)

/-- An expression's line, if its value can be written. -/
def formatResult? (settings : OutputSettings) (expression : String) (value : Float) :
    Option String :=
  (settings.formatValue? value).map fun text =>
    if settings.echo then expression ++ " = " ++ text else text

end OutputSettings

end Calculator
