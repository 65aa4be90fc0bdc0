import Calculator.Grammar.Cursor
import Calculator.Proofs.Token.Stop

/-!
Spans as places in a text.

A span is a place in a text if it ends inside it and cuts no character in two, however many bytes
the characters take. What lexing has to do with are words of the text, each with something before it
and something behind it, and the span of a word is a place.

* `Span.Within`: the span is a place in the text.
* `exists_append_of_lex`: every token is a word of its text.
* `stop_ofTokens`: the tokens of a text end where the text does.
-/

namespace Calculator

/-- A span that ends inside the text. It begins and stops between two characters. -/
structure Span.Within (span : Span) (text : String) : Prop where
  le : span.stop ≤ text.utf8ByteSize
  offset : String.Pos.Raw.IsValid text ⟨span.offset⟩
  stop : String.Pos.Raw.IsValid text ⟨span.stop⟩

/-- The span of a word is a place in the text. -/
theorem Span.within_append (before word after : String) :
    Span.Within ⟨before.utf8ByteSize, word.utf8ByteSize⟩ (before ++ (word ++ after)) where
  le := by
    simp only [Span.stop, String.utf8ByteSize_append]
    omega
  offset := String.Pos.Raw.isValid_iff_exists_append.mpr ⟨before, word ++ after, rfl, rfl⟩
  stop := by
    refine String.Pos.Raw.isValid_iff_exists_append.mpr ⟨before ++ word, after, ?_, ?_⟩
    · rw [String.append_assoc]
    · rw [Span.stop, String.Pos.Raw.ext_iff, String.byteIdx_rawEndPos, String.utf8ByteSize_append]

/-- The text of a token is not empty. -/
theorem Kind.Accepts.utf8ByteSize_pos {kind : Kind} {text : String} (accepts : kind.Accepts text) :
    0 < text.utf8ByteSize := by
  obtain ⟨c, cs, characters, -⟩ := accepts.exists_cons
  rw [← String.ofList_toList (s := text), characters, String.utf8ByteSize_ofList,
    String.utf8Len_cons]
  have := c.utf8Size_pos
  omega

/-- Tokens without gaps stop where the last of them does. -/
theorem Token.Contiguous.stop_getLast? {start stop : Nat} {tokens : List Token}
    (h : Token.Contiguous start tokens stop) :
    (tokens.getLast?.map (·.span.stop)).getD start = stop := by
  induction tokens generalizing start with
  | nil => exact h
  | cons token tokens ih =>
    have rest := ih h.2
    rw [List.getLast?_cons]
    cases last : tokens.getLast? <;> simpa [last] using rest

variable {text : String} {tokens : List Token}

/-- **Every token is a word of its text**, at the place that its span says. -/
theorem exists_append_of_lex (lexed : lex text = .ok tokens) :
    ∀ token ∈ tokens, ∃ before after, text = before ++ (token.text ++ after) ∧
      token.span = ⟨before.utf8ByteSize, token.text.utf8ByteSize⟩ ∧ 0 < token.span.length := by
  intro token member
  obtain ⟨canonical, rfl⟩ := lex_eq_ok_iff.mp lexed
  obtain ⟨before, after, joined, span⟩ := canonical.exists_append token member
  rw [Nat.zero_add] at span
  refine ⟨before, after, joined, span, ?_⟩
  rw [span]
  exact (canonical.accepts token member).utf8ByteSize_pos

/-- The tokens of a text end where the text does. -/
theorem stop_ofTokens (lexed : lex text = .ok tokens) :
    (Cursor.ofTokens tokens).stop = text.utf8ByteSize := by
  obtain ⟨canonical, rfl⟩ := lex_eq_ok_iff.mp lexed
  have contiguous := canonical.contiguous
  rw [Nat.zero_add] at contiguous
  exact contiguous.stop_getLast?

end Calculator
