/-!
The size of a field.

The width of a field and the places of a number are counts of sixteen bits. Nothing is cut down to
fit: what asks for more cannot be written, and the run that wants to write it is aborted.
-/

namespace Calculator.Text

/-- The greatest width of a field, and the most places that a number can be written with. -/
def widest : Nat := 65535

end Calculator.Text
