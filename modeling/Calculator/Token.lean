/-!
Tokens of an arithmetic expression.

A token has a kind, the text it was read from and the bytes of the input that text covers. The
vocabulary is small: runs of decimal digits, the four operator signs and the two parentheses. A
token list that comes from elsewhere may also hold a token of kind `unrecognized`; no input lexes
to one.
-/

namespace Calculator

/-- A stretch of the input, in UTF-8 bytes. -/
structure Span where
  /-- Bytes before the stretch. -/
  offset : Nat
  /-- Bytes in the stretch. -/
  length : Nat
deriving DecidableEq, Repr

/-- The offset just past the stretch. -/
def Span.stop (s : Span) : Nat := s.offset + s.length

/-- What a token is. -/
inductive Kind where
  | number
  | plus
  | minus
  | star
  | slash
  | openParen
  | closeParen
  | unrecognized
deriving DecidableEq, Repr

namespace Kind

/-- The kind of a token that is one sign. -/
def ofSign? : Char → Option Kind
  | '+' => some .plus
  | '-' => some .minus
  | '*' => some .star
  | '/' => some .slash
  | '(' => some .openParen
  | ')' => some .closeParen
  | _ => none

/-- How a message calls a token of this kind. -/
def describe : Kind → String
  | .number => "number"
  | .plus => "`+`"
  | .minus => "`-`"
  | .star => "`*`"
  | .slash => "`/`"
  | .openParen => "`(`"
  | .closeParen => "`)`"
  | .unrecognized => "unrecognised input"

/-- The name of the kind in a token listing. -/
def name : Kind → String
  | .number => "Number"
  | .plus => "Plus"
  | .minus => "Minus"
  | .star => "Star"
  | .slash => "Slash"
  | .openParen => "LParen"
  | .closeParen => "RParen"
  | .unrecognized => "Error"

end Kind

/-- A piece of the input with its kind and its place. -/
structure Token where
  kind : Kind
  text : String
  span : Span
deriving DecidableEq, Repr

end Calculator
