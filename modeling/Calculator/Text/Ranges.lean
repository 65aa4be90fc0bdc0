/-!
Sets of characters as lists of ranges.

A set is written as the ascending list of its maximal ranges of code points, ends included. The
search stops at the first range beyond the point, so a small code point is found out at once.
-/

namespace Calculator.Text

/-- Closed ranges of code points, ascending and apart. -/
abbrev Ranges := List (Nat × Nat)

/-- Whether one of the ranges holds the code point. -/
def Ranges.holds : Ranges → Nat → Bool
  | [], _ => false
  | (first, last) :: ranges, n =>
    if n < first then false else if n ≤ last then true else Ranges.holds ranges n

end Calculator.Text
