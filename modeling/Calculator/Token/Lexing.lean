import Calculator.SyntaxError

/-!
Lexing: from text to tokens.

A run of decimal digits is one token, as long as it can be; each sign is a token by itself. Every
character of a token takes one byte, so the running offset grows by the length of the token's text.
Blanks are no tokens: the first character that begins none ends the lexing, and the error keeps
everything from there on.
-/

namespace Calculator

/-- The tokens of `cs`, which begins at the byte `offset` of the input. -/
def scan (offset : Nat) : List Char → Except LexError (List Token)
  | [] => .ok []
  | c :: cs =>
    if c.isDigit then
      let digits := c :: cs.takeWhile Char.isDigit
      let token : Token := ⟨.number, String.ofList digits, ⟨offset, digits.length⟩⟩
      (scan (offset + digits.length) (cs.dropWhile Char.isDigit)).map (token :: ·)
    else
      match Kind.ofSign? c with
      | some kind => (scan (offset + 1) cs).map (⟨kind, String.singleton c, ⟨offset, 1⟩⟩ :: ·)
      | none => .error ⟨String.ofList (c :: cs), offset⟩
termination_by cs => cs.length
decreasing_by
  · have := (List.dropWhile_suffix Char.isDigit (l := cs)).length_le
    simp only [List.length_cons]
    omega
  · simp

/-- The tokens of a text, in order. -/
def lex (text : String) : Except LexError (List Token) :=
  scan 0 text.toList

end Calculator
