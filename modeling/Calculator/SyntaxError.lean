import Calculator.Token
import Calculator.Text.Quoted

/-!
Why a text is no expression.

Two things can go wrong. Lexing stops at the first character that no token begins with; the error
then holds the rest of the input, so its span always reaches the end. Parsing stops at a token that
cannot continue the expression, at the end of the input, or at a parenthesis without a partner; the
error then holds the fault and the span to point at.
-/

namespace Calculator

/-- Lexing stopped before `remainder`, at the byte `offset`. -/
structure LexError where
  remainder : String
  offset : Nat
deriving DecidableEq, Repr

/-- All that was not lexed. -/
def LexError.span (e : LexError) : Span := ⟨e.offset, e.remainder.utf8ByteSize⟩

/-- Why a token list is no expression. -/
inductive ParseFault where
  /-- An operand is missing and nothing follows. -/
  | unexpectedEnd
  /-- An operand is missing and a token of this kind stands in its place. -/
  | operandExpected (found : Kind)
  /-- A `)` closes no group. -/
  | unmatchedParen
  /-- The group that a `(` opens is not closed where it ends. -/
  | unclosedParen
  /-- A token of this kind follows the complete expression. -/
  | trailing (found : Kind)
deriving DecidableEq, Repr

/-- The fault in words. -/
def ParseFault.reason : ParseFault → String
  | .unexpectedEnd => "unexpected end of input"
  | .operandExpected found => "expected a number, `(` or `-`, found " ++ found.describe
  | .unmatchedParen => "unmatched `)`"
  | .unclosedParen => "unclosed `(`"
  | .trailing found => "unexpected trailing " ++ found.describe

/-- A fault and the place it is reported at. -/
structure ParseError where
  fault : ParseFault
  span : Span
deriving DecidableEq, Repr

/-- A text is rejected by the lexer or, once lexed, by the parser. -/
inductive SyntaxError where
  | lexical (error : LexError)
  | grammatical (error : ParseError)
deriving DecidableEq, Repr

namespace SyntaxError

/-- The place the error is reported at. -/
def span : SyntaxError → Span
  | .lexical e => e.span
  | .grammatical e => e.span

/-- The error in one line. -/
def message : SyntaxError → String
  | .lexical e => "Lex error: no token matches at " ++ Text.quote e.remainder
  | .grammatical e => "Parse error: " ++ e.fault.reason

/-- The note beside the marked place. -/
def label : SyntaxError → String
  | .lexical _ => "unrecognised input starts here"
  | .grammatical e => e.fault.reason

end SyntaxError

end Calculator
