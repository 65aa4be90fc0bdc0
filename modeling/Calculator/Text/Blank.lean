import Calculator.Text.Ranges
import Calculator.Text.Split

/-!
Characters that leave a blank, as of Unicode 17.0: the blanks themselves, the ends of lines and the
line and paragraph separators.
-/

namespace Calculator.Text

/-- The code points with the property White_Space. -/
def blankRanges : Ranges :=
  [(0x9, 0xD), (0x20, 0x20), (0x85, 0x85), (0xA0, 0xA0), (0x1680, 0x1680), (0x2000, 0x200A),
   (0x2028, 0x2029), (0x202F, 0x202F), (0x205F, 0x205F), (0x3000, 0x3000)]

/-- Whether a character leaves a blank. -/
def isBlank (c : Char) : Bool := blankRanges.holds c.toNat

/-- A text without the blanks at its end. -/
def trimBlanks (text : String) : String := String.ofList (trimEnd isBlank text.toList)

end Calculator.Text
