import Calculator.Proofs.Token.Canonical
import Mathlib.Data.List.Chain

/-!
Tokens tile their text.

Lexing goes through for the texts of digits and signs and for no others. Such a text is cut into its
tokens without a gap: each span begins where the one before ends, the last ends with the text, and
the bytes under a span are those of its token. Going back, the kinds and the texts of some tokens
are enough to know the list, spans included, if each text is one of its kind and no two numbers are
neighbours, whose digits would join.

* `exists_scan_iff`: the characters that lex are digits and signs.
* `Canonical.contiguous`, `Canonical.exists_append`, `Canonical.bytes_span`: the spans of a
  canonical list and what they cover.
* `Canonical.of_layOut`: tokens laid out without gaps are a canonical list.
* `lex_bijective`: lexing is a bijection onto the lists of this kind.
-/

namespace Calculator

/-! ### The alphabet -/

/-- A decimal digit, an operator or a parenthesis. -/
def Lexable (c : Char) : Prop := c.isDigit ∨ c ∈ ['+', '-', '*', '/', '(', ')']

instance (c : Char) : Decidable (Lexable c) := inferInstanceAs (Decidable (_ ∨ _))

/-- The characters of the alphabet that are no digits are the signs. -/
theorem lexable_iff {c : Char} : Lexable c ↔ c.isDigit ∨ ∃ kind, Kind.ofSign? c = some kind := by
  have signs : c ∈ ['+', '-', '*', '/', '(', ')'] ↔ ∃ kind, Kind.ofSign? c = some kind := by
    unfold Kind.ofSign?
    split <;> simp_all
  rw [Lexable, signs]

/-- The text of a token consists of digits or is a sign. -/
theorem Kind.Accepts.lexable {kind : Kind} {text : String} (accepts : kind.Accepts text) :
    ∀ c ∈ text.toList, Lexable c := by
  intro c member
  by_cases isNumber : kind = .number
  · subst isNumber
    exact .inl (accepts.2 c member)
  · obtain ⟨sign, isSign, rfl⟩ := accepts.sign isNumber
    obtain rfl : c = sign := by simpa using member
    exact lexable_iff.mpr (.inr ⟨kind, isSign⟩)

/-- The characters of canonical tokens are digits and signs. -/
theorem Canonical.lexable {offset : Nat} {tokens : List Token} (h : Canonical offset tokens) :
    ∀ c ∈ Token.characters tokens, Lexable c := by
  induction h with
  | nil => simp
  | cons accepts _ _ ih =>
    rw [Token.characters_cons, List.forall_mem_append]
    exact ⟨accepts.lexable, ih⟩

/-- **The characters that lex are the digits and the signs.** -/
theorem exists_scan_iff {offset : Nat} {cs : List Char} :
    (∃ tokens, scan offset cs = .ok tokens) ↔ ∀ c ∈ cs, Lexable c := by
  constructor
  · rintro ⟨tokens, scanned⟩
    obtain ⟨canonical, rfl⟩ := canonical_of_scan scanned
    exact canonical.lexable
  · intro lexable
    fun_induction scan offset cs
    case case1 => exact ⟨[], rfl⟩
    case case2 offset c cs digit run token ih =>
      have after : ∀ d ∈ cs.dropWhile Char.isDigit, Lexable d := fun d member =>
        lexable d (List.mem_cons_of_mem c (List.dropWhile_subset _ member))
      obtain ⟨following, scanned⟩ := ih after
      exact ⟨token :: following, by rw [scanned]; rfl⟩
    case case3 offset c cs noDigit kind sign ih =>
      obtain ⟨following, scanned⟩ := ih (List.forall_mem_cons.mp lexable).2
      exact ⟨_, by rw [scanned]; rfl⟩
    case case4 offset c cs noDigit noSign =>
      rcases lexable_iff.mp (lexable c List.mem_cons_self) with digit | ⟨kind, sign⟩
      · exact absurd digit noDigit
      · rw [noSign] at sign
        cases sign

/-! ### Kinds and texts -/

/-- No text makes an unrecognized token. -/
theorem Kind.Accepts.ne_unrecognized {kind : Kind} {text : String} (accepts : kind.Accepts text) :
    kind ≠ .unrecognized := by
  rintro rfl
  obtain ⟨c, sign, -⟩ := accepts
  unfold Kind.ofSign? at sign
  split at sign <;> cases sign

/-- The numbers are the tokens with a run of digits for their text. -/
theorem Kind.Accepts.number_iff {kind : Kind} {text : String} (accepts : kind.Accepts text) :
    kind = .number ↔ IsDigits text := by
  constructor
  · rintro rfl
    exact accepts
  · rintro ⟨-, digits⟩
    obtain ⟨c, cs, first, digit⟩ := accepts.exists_cons
    exact digit.mp (digits c (first ▸ List.mem_cons_self))

/-- One of two neighbours is no number. -/
def Token.Apart (left right : Token) : Prop := left.kind = .number → right.kind ≠ .number

instance (left right : Token) : Decidable (left.Apart right) :=
  inferInstanceAs (Decidable (_ → _))

/-! ### Spans -/

/-- The bytes of a text that a span covers. -/
def Span.bytes (span : Span) (text : String) : ByteArray :=
  text.toByteArray.extract span.offset span.stop

/-- The spans begin at one offset, each begins where the one before stops, and the last stops at
the other offset. -/
def Token.Contiguous (start : Nat) : List Token → Nat → Prop
  | [], stop => start = stop
  | token :: tokens, stop => token.span.offset = start ∧ Contiguous token.span.stop tokens stop

/-- The span of a word inside a text covers the bytes of the word. -/
theorem Span.bytes_append (before word after : String) :
    Span.bytes ⟨before.utf8ByteSize, word.utf8ByteSize⟩ (before ++ (word ++ after)) =
      word.toByteArray := by
  rw [Span.bytes, Span.stop, ← String.append_assoc, String.toByteArray_append,
    String.toByteArray_append, ← String.size_toByteArray, ← String.size_toByteArray,
    ByteArray.extract_append, ByteArray.extract_append_eq_right rfl rfl]
  simp

/-- No gap and no overlap between the spans of a canonical list. -/
theorem Canonical.contiguous {offset : Nat} {tokens : List Token} (h : Canonical offset tokens) :
    Token.Contiguous offset tokens
      (offset + (String.join (tokens.map Token.text)).utf8ByteSize) := by
  induction h with
  | nil => simp [Token.Contiguous]
  | cons accepts maximal rest ih =>
    refine ⟨rfl, ?_⟩
    rw [List.map_cons, String.join_cons, String.utf8ByteSize_append, ← Nat.add_assoc]
    exact ih

/-- No two numbers of a canonical list are neighbours. -/
theorem Canonical.apart {offset : Nat} {tokens : List Token} (h : Canonical offset tokens) :
    tokens.IsChain Token.Apart := by
  induction h with
  | nil => exact .nil
  | cons accepts maximal rest ih =>
    refine List.isChain_cons.mpr ⟨?_, ih⟩
    intro next first isNumber nextIsNumber
    exact maximal isNumber ⟨next, first, nextIsNumber⟩

/-- The tokens of a canonical list have a text of their kind. -/
theorem Canonical.accepts {offset : Nat} {tokens : List Token} (h : Canonical offset tokens) :
    ∀ token ∈ tokens, token.kind.Accepts token.text := by
  induction h with
  | nil => simp
  | cons accepts maximal rest ih => exact List.forall_mem_cons.mpr ⟨accepts, ih⟩

/-- The tokens of a canonical list are words of the text that they spell out. -/
theorem Canonical.exists_append {offset : Nat} {tokens : List Token} (h : Canonical offset tokens) :
    ∀ token ∈ tokens, ∃ before after,
      String.join (tokens.map Token.text) = before ++ (token.text ++ after) ∧
        token.span = ⟨offset + before.utf8ByteSize, token.text.utf8ByteSize⟩ := by
  induction h with
  | nil => simp
  | @cons offset kind text tokens accepts maximal rest ih =>
    rw [List.map_cons, String.join_cons]
    refine List.forall_mem_cons.mpr ⟨⟨"", String.join (tokens.map Token.text), ?_, ?_⟩, ?_⟩
    · rw [String.empty_append]
    · rw [String.utf8ByteSize_empty, Nat.add_zero]
    · intro token member
      obtain ⟨before, after, joined, span⟩ := ih token member
      refine ⟨text ++ before, after, by rw [joined, String.append_assoc], ?_⟩
      rw [span, String.utf8ByteSize_append, Nat.add_assoc]

/-- The span of a token in a canonical list covers the bytes of the token's text, in every text that
has as many bytes as the offset before those of the list. -/
theorem Canonical.bytes_span {offset : Nat} {tokens : List Token} (h : Canonical offset tokens)
    {before : String} (size : before.utf8ByteSize = offset) :
    ∀ token ∈ tokens, token.span.length = token.text.utf8ByteSize ∧
      token.span.bytes (before ++ String.join (tokens.map Token.text)) =
        token.text.toByteArray := by
  intro token member
  obtain ⟨earlier, after, joined, span⟩ := h.exists_append token member
  rw [span, ← size, ← String.utf8ByteSize_append, joined, ← String.append_assoc]
  exact ⟨rfl, Span.bytes_append _ _ _⟩

/-! ### Laying out tokens -/

/-- The same tokens without gaps from a byte offset on, whatever their spans were. -/
def Token.layOut (offset : Nat) : List Token → List Token
  | [] => []
  | token :: tokens =>
    { token with span := ⟨offset, token.text.utf8ByteSize⟩ } ::
      layOut (offset + token.text.utf8ByteSize) tokens

theorem Token.map_text_layOut (offset : Nat) (tokens : List Token) :
    (layOut offset tokens).map Token.text = tokens.map Token.text := by
  induction tokens generalizing offset with
  | nil => rfl
  | cons token tokens ih => rw [layOut, List.map_cons, ih, List.map_cons]

/-- Tokens with texts of their kinds, no two numbers of which are neighbours, are laid out as a
canonical list. -/
theorem Canonical.of_layOut (offset : Nat) {tokens : List Token}
    (accepts : ∀ token ∈ tokens, token.kind.Accepts token.text)
    (apart : tokens.IsChain Token.Apart) : Canonical offset (Token.layOut offset tokens) := by
  induction tokens generalizing offset with
  | nil => exact .nil offset
  | cons token tokens ih =>
    obtain ⟨acceptsHead, acceptsTail⟩ := List.forall_mem_cons.mp accepts
    obtain ⟨apartHead, apartTail⟩ := List.isChain_cons.mp apart
    refine .cons acceptsHead (fun isNumber => ?_) (ih _ acceptsTail apartTail)
    rintro ⟨next, first, nextIsNumber⟩
    cases tokens with
    | nil => cases first
    | cons following tokens =>
      cases first
      exact apartHead following rfl isNumber nextIsNumber

/-- **Lexing is a bijection** between the texts of digits and signs and the token lists that tile
them. Such a text has a token list; the texts of the tokens make it up, their spans follow one
another from its first byte to its last and cover the bytes of the token each, every token has the
kind of its text, none is unrecognized, and no two numbers are neighbours. And any tokens of which
the last three are true are what their joined texts lex to, with the spans laid out without gaps. -/
theorem lex_bijective :
    (∀ text : String, (∀ c ∈ text.toList, Lexable c) →
      ∃ tokens, lex text = .ok tokens ∧ String.join (tokens.map Token.text) = text ∧
        Token.Contiguous 0 tokens text.utf8ByteSize ∧ tokens.IsChain Token.Apart ∧
        ∀ token ∈ tokens, token.kind ≠ .unrecognized ∧ token.kind.Accepts token.text ∧
          (token.kind = .number ↔ IsDigits token.text) ∧
          token.span.length = token.text.utf8ByteSize ∧
          token.span.bytes text = token.text.toByteArray) ∧
    ∀ tokens : List Token, (∀ token ∈ tokens, token.kind.Accepts token.text) →
      tokens.IsChain Token.Apart →
        lex (String.join (tokens.map Token.text)) = .ok (Token.layOut 0 tokens) ∧
          Token.Contiguous 0 (Token.layOut 0 tokens)
            (String.join (tokens.map Token.text)).utf8ByteSize := by
  refine ⟨?forth, ?back⟩
  case forth =>
    intro text lexable
    obtain ⟨tokens, lexed⟩ := exists_scan_iff.mpr lexable
    obtain ⟨canonical, rfl⟩ := lex_eq_ok_iff.mp lexed
    have contiguous := canonical.contiguous
    rw [Nat.zero_add] at contiguous
    refine ⟨tokens, lexed, rfl, contiguous, canonical.apart, ?_⟩
    intro token member
    have accepts := canonical.accepts token member
    obtain ⟨length, bytes⟩ := canonical.bytes_span String.utf8ByteSize_empty token member
    rw [String.empty_append] at bytes
    exact ⟨accepts.ne_unrecognized, accepts, accepts.number_iff, length, bytes⟩
  case back =>
    intro tokens accepts apart
    have canonical := Canonical.of_layOut 0 accepts apart
    have contiguous := canonical.contiguous
    rw [Nat.zero_add, Token.map_text_layOut] at contiguous
    exact ⟨lex_eq_ok_iff.mpr ⟨canonical, by rw [Token.map_text_layOut]⟩, contiguous⟩

/-- Runs of digits on both sides of four signs, forth and back. The spans that the tokens come with
are of no account. -/
theorem lex_bijective_signs_between_runs :
    let tokens : List Token :=
      [⟨.number, "007", ⟨9, 9⟩⟩, ⟨.slash, "/", ⟨9, 9⟩⟩, ⟨.minus, "-", ⟨9, 9⟩⟩,
        ⟨.openParen, "(", ⟨9, 9⟩⟩, ⟨.number, "10", ⟨9, 9⟩⟩, ⟨.closeParen, ")", ⟨9, 9⟩⟩]
    (∀ token ∈ tokens, token.kind.Accepts token.text) ∧ tokens.IsChain Token.Apart ∧
      lex (String.join (tokens.map Token.text)) = .ok
        [⟨.number, "007", ⟨0, 3⟩⟩, ⟨.slash, "/", ⟨3, 1⟩⟩, ⟨.minus, "-", ⟨4, 1⟩⟩,
          ⟨.openParen, "(", ⟨5, 1⟩⟩, ⟨.number, "10", ⟨6, 2⟩⟩, ⟨.closeParen, ")", ⟨8, 1⟩⟩] ∧
      ∃ found, lex "007/-(10)" = .ok found ∧ Token.Contiguous 0 found 9 := by
  intro tokens
  have accepts : ∀ token ∈ tokens, token.kind.Accepts token.text := by
    have slash : Kind.Accepts .slash "/" := ⟨'/', rfl, rfl⟩
    have minus : Kind.Accepts .minus "-" := ⟨'-', rfl, rfl⟩
    have opening : Kind.Accepts .openParen "(" := ⟨'(', rfl, rfl⟩
    have closing : Kind.Accepts .closeParen ")" := ⟨')', rfl, rfl⟩
    have seven : IsDigits "007" := by decide
    have ten : IsDigits "10" := by decide
    simp only [tokens, List.forall_mem_cons, List.not_mem_nil, false_implies, implies_true,
      and_true]
    exact ⟨seven, slash, minus, opening, ten, closing⟩
  have apart : tokens.IsChain Token.Apart := by decide
  have back := (lex_bijective.2 tokens accepts apart).1
  obtain ⟨found, lexed, -, contiguous, -⟩ := lex_bijective.1 "007/-(10)" (by simp [Lexable])
  exact ⟨accepts, apart, back, found, lexed, contiguous⟩

end Calculator
