import Calculator.Evaluation
import Calculator.Proofs.Evaluation.Value
import Calculator.Proofs.Grammar.RoundTrip
import Calculator.Proofs.Number.Digits
import Calculator.Proofs.Token.Stop

/-!
When a text has a value.

Folding can fail in four ways, and on the symbols of an expression only one is left: a number that
cannot be read. Lexing makes numbers from runs of digits alone, and those can all be read. So a text
has a value exactly when it parses, namely the value of its expression. A text that does not even
lex is refused before that, at its first character outside the alphabet, and neither what stands
before that character nor what follows it has a say.

* `evaluate_eq`: the stages of an evaluation, one after the other.
* `evaluate_eq_parse`: the result of an evaluation, by that of parsing.
* `refusedByLexing_append`: where a text that leaves the alphabet is refused.
-/

namespace Calculator

/-- A run of digits can be read, so that no number of some stands in the way of a verdict. -/
theorem Number.verdict_of_isDigits {texts : List String}
    (digits : ∀ text ∈ texts, IsDigits text) (value : Float) :
    Number.verdict texts value = .ok value := by
  have readable : Number.unreadable? texts = none := by
    rw [Number.unreadable?, List.find?_eq_none]
    intro text member
    rw [Number.ofText?_of_isDigits (digits text member)]
    exact Bool.false_ne_true
  rw [Number.verdict, readable]

/-- The result of an evaluation: the text is parsed, and what it parses to is flattened and
folded. -/
theorem evaluate_eq (text : String) :
    evaluate text =
      match parse text with
      | .error error => .error (.malformed error)
      | .ok e => e.toTree.linearize.fold.result.mapError .unfoldable := by
  simp only [evaluate, evaluateLogged, parse, Logged.result_bind, Logged.result_ofExcept,
    Logged.result_leave, Logged.result_mapError]
  cases lex text with
  | error error => rfl
  | ok tokens =>
    dsimp only [Except.mapError, Bind.bind, Except.bind]
    cases parseTokens tokens <;> rfl

/-- The numbers of what a text parses to can be read, so its symbols fold to its value. -/
theorem fold_linearize_of_parse {text : String} {e : Expression} (parsed : parse text = .ok e) :
    e.toTree.linearize.fold.result = .ok e.value := by
  obtain ⟨-, digits⟩ := parse_eq_ok_iff.mp parsed
  rw [result_fold_linearize, Number.verdict_of_isDigits digits]

/-- **Evaluating is parsing and taking the value.** -/
theorem evaluate_eq_parse (text : String) :
    evaluate text = ((parse text).map Expression.value).mapError .malformed := by
  rw [evaluate_eq]
  cases parsed : parse text with
  | error error => rfl
  | ok e =>
    dsimp only
    rw [fold_linearize_of_parse parsed]
    rfl

theorem evaluate_eq_ok {text : String} {value : Float} :
    evaluate text = .ok value ↔ ∃ e, parse text = .ok e ∧ e.value = value := by
  rw [evaluate_eq_parse]
  cases parse text <;> simp [Except.map, Except.mapError]

theorem evaluate_eq_error {text : String} {error : EvalError} :
    evaluate text = .error error ↔ ∃ e, parse text = .error e ∧ .malformed e = error := by
  rw [evaluate_eq_parse]
  cases parse text <;> simp [Except.map, Except.mapError]

/-- **A text has a value exactly when it parses**, it is refused with the error of parsing, and no
text gets as far as an error of folding. -/
theorem evaluate_agrees_with_parse (text : String) :
    ((∃ value, evaluate text = .ok value) ↔ ∃ e, parse text = .ok e) ∧
      (∀ error, evaluate text = .error error ↔
        ∃ e, parse text = .error e ∧ error = .malformed e) ∧
      ∀ error, evaluate text ≠ .error (.unfoldable error) := by
  refine ⟨?_, ?_, ?_⟩
  · constructor
    · rintro ⟨value, evaluated⟩
      obtain ⟨e, parsed, -⟩ := evaluate_eq_ok.mp evaluated
      exact ⟨e, parsed⟩
    · rintro ⟨e, parsed⟩
      exact ⟨e.value, evaluate_eq_ok.mpr ⟨e, parsed, rfl⟩⟩
  · intro error
    rw [evaluate_eq_error]
    simp only [@eq_comm _ error]
  · intro error unfoldable
    obtain ⟨e, -, same⟩ := evaluate_eq_error.mp unfoldable
    cases same

/-! ### Texts outside the alphabet -/

/-- The first character of a text is outside the alphabet. -/
def BeginsForeign (text : String) : Prop := ∃ c ∈ text.toList.head?, ¬ Lexable c

/-- Lexing refuses a text, and parsing and evaluating it come to nothing for that reason. -/
structure RefusedByLexing (text : String) (error : LexError) : Prop where
  lexing : lex text = .error error
  parsing : parse text = .error (.lexical error)
  evaluation : evaluate text = .error (.malformed (.lexical error))

/-- The error of lexing goes before all others. -/
theorem refusedByLexing_iff {text : String} {error : LexError} :
    RefusedByLexing text error ↔ lex text = .error error := by
  constructor
  · exact RefusedByLexing.lexing
  · intro lexed
    have parsed : parse text = .error (.lexical error) := lex_eq_error.mp lexed
    exact ⟨lexed, parsed, evaluate_eq_error.mpr ⟨_, parsed, rfl⟩⟩

/-- A text that leaves the alphabet after `before` is refused there. -/
theorem refusedByLexing_append {before rest : String} (lexable : ∀ c ∈ before.toList, Lexable c)
    (foreign : BeginsForeign rest) :
    RefusedByLexing (before ++ rest) ⟨rest, before.utf8ByteSize⟩ :=
  refusedByLexing_iff.mpr (lex_eq_error_iff.mpr ⟨before, rfl, rfl, lexable, foreign⟩)

/-- A text with a character outside the alphabet is cut before the first such character. -/
theorem exists_foreign_cut {text : String} (foreign : ∃ c ∈ text.toList, ¬ Lexable c) :
    ∃ before rest, text = before ++ rest ∧ (∀ c ∈ before.toList, Lexable c) ∧
      BeginsForeign rest := by
  cases lexed : lex text with
  | ok tokens =>
    obtain ⟨c, member, outside⟩ := foreign
    exact absurd (exists_scan_iff.mp ⟨tokens, lexed⟩ c member) outside
  | error error =>
    obtain ⟨before, joined, -, lexable, begins⟩ := lex_eq_error_iff.mp lexed
    exact ⟨before, error.remainder, joined, lexable, begins⟩

/-- **A text is refused where it leaves the alphabet.** A text with a character that is neither a
digit nor a sign is cut before the first one. Lexing, parsing and evaluating it fail with one error,
even if what stands before the cut is no beginning of an expression: its remainder is all behind the
cut, its span has the bytes before the cut for its offset and those behind it for its length. What
stands before the cut lexes by itself, and every other text that goes on from there with a character
outside the alphabet is refused at the same offset. -/
theorem refusedByLexing_of_foreign {text : String} (foreign : ∃ c ∈ text.toList, ¬ Lexable c) :
    ∃ (before : String) (error : LexError), text = before ++ error.remainder ∧
      (∀ c ∈ before.toList, Lexable c) ∧ BeginsForeign error.remainder ∧
      RefusedByLexing text error ∧
      error.span = ⟨before.utf8ByteSize, error.remainder.utf8ByteSize⟩ ∧
      (∃ tokens, lex before = .ok tokens) ∧
      ∀ rest, BeginsForeign rest → ∃ other : LexError, RefusedByLexing (before ++ rest) other ∧
        other.remainder = rest ∧ other.span.offset = error.span.offset := by
  obtain ⟨before, rest, rfl, lexable, begins⟩ := exists_foreign_cut foreign
  refine ⟨before, ⟨rest, before.utf8ByteSize⟩, rfl, lexable, begins, ?_, rfl, ?_, ?_⟩
  · exact refusedByLexing_append lexable begins
  · exact exists_scan_iff.mpr lexable
  · intro other begins'
    exact ⟨_, refusedByLexing_append lexable begins', rfl, rfl⟩

/-- A digit of double width behind what no expression begins with: `)` comes first, but lexing
goes before parsing. -/
theorem refusedByLexing_of_foreign_wide_digit :
    let text := "1)+*３ 2é"
    (∃ c ∈ text.toList, ¬ Lexable c) ∧
      (∃ error : LexError, RefusedByLexing text error ∧ error.remainder = "３ 2é" ∧
        error.span = ⟨4, 7⟩) ∧
      ∃ other : LexError, RefusedByLexing "1)+* " other ∧ other.span.offset = 4 := by
  intro text
  have foreign : ∃ c ∈ text.toList, ¬ Lexable c := ⟨'３', by decide, by decide⟩
  obtain ⟨before, error, joined, -, -, refused, span, -, others⟩ :=
    refusedByLexing_of_foreign foreign
  have lexable : ∀ c ∈ "1)+*".toList, Lexable c := by simp [Lexable]
  have begins : BeginsForeign "３ 2é" := ⟨'３', by decide, by decide⟩
  have lexed : lex ("1)+*" ++ "３ 2é") = .error ⟨"３ 2é", 4⟩ :=
    (refusedByLexing_append lexable begins).lexing
  obtain rfl : (⟨"３ 2é", 4⟩ : LexError) = error :=
    Except.error.inj (lexed.symm.trans refused.lexing)
  have cut : "1)+*" ++ "３ 2é" = before ++ "３ 2é" := joined
  obtain rfl : "1)+*" = before := (String.append_left_inj "３ 2é").mp cut
  obtain ⟨other, refusedOther, -, offset⟩ := others " " ⟨' ', by decide, by decide⟩
  exact ⟨foreign, ⟨_, refused, rfl, span⟩, other, refusedOther, offset⟩

end Calculator
