import Calculator.Proofs.Line.Results
import Calculator.Proofs.Postfix.Leaves
import Calculator.Proofs.Postfix.Words
import Calculator.Proofs.Tree.Indentation

/-!
Showing a stage and evaluating agree.

The tree and the postfix sequence of a text are refused exactly when the text has no value, with the
same error. The tokens ask for less, so they can also be shown if only parsing fails. The line that
shows a postfix sequence is all there is to know about it: it reads back as the sequence that was
folded. To have a value is not enough for the tree to be shown, though. If it is too high, it has no
outline.

* `Stage.render_tree`, `Stage.render_linear`, `Stage.render_tokens`: a stage by what it is made of.
* `Stage.render_tree_eq_none_iff`, `Stage.exists_render_of_parse`: which stages can be shown.
* `Postfix.ofText_linearize`: the sequence of an expression is read back from its line.
* `render_agrees_with_evaluate`: what can be shown of a line, and its value.
* `render_tree_minuses`: a text with a value whose tree cannot be shown.
-/

namespace Calculator

namespace Stage

/-- A stage behind parsing fails as parsing does. -/
theorem parsed_eq (text : String) (f : Expression → Option String) :
    (do
      let tokens ← (lex text).mapError SyntaxError.lexical
      let parsed ← (parseTokens tokens).mapError SyntaxError.grammatical
      pure (f parsed)) = (parse text).map f := by
  rw [parse]
  cases lex text with
  | error e => rfl
  | ok tokens =>
    dsimp only [Except.mapError, Bind.bind, Except.bind]
    cases parseTokens tokens <;> rfl

theorem render_tree (text : String) :
    tree.render text = (parse text).map fun e => e.toTree.outline?.map Text.trimBlanks :=
  parsed_eq text _

theorem render_linear (text : String) :
    linear.render text = (parse text).map fun e => some e.toTree.linearize.text :=
  parsed_eq text _

theorem render_tokens (text : String) :
    tokens.render text =
      ((lex text).map fun tokens => some ("\n".intercalate (tokens.map Token.listing))).mapError
        .lexical := by
  rw [render]
  cases lex text <;> rfl

/-- The tree of a text that parses can be shown unless it is too high. -/
theorem render_tree_eq_none_iff {text : String} {e : Expression} (parsed : parse text = .ok e) :
    tree.render text = .ok none ↔ 32767 < e.toTree.height := by
  rw [render_tree, parsed, ← e.outline?_eq_none_iff]
  simp [Except.map]

/-- A stage of what parses can be shown, if it is not a tree that is too high. -/
theorem exists_render_of_parse {text : String} {e : Expression} (parsed : parse text = .ok e)
    {stage : Stage} (low : stage = .tree → e.toTree.height ≤ 32767) :
    ∃ shown, stage.render text = .ok (some shown) := by
  cases stage with
  | tokens =>
    obtain ⟨tokens, lexed, -⟩ := parse_eq_ok.mp parsed
    exact ⟨_, by rw [render_tokens, lexed]; rfl⟩
  | tree =>
    have outlined := mt e.outline?_eq_none_iff.mp (Nat.not_lt.mpr (low rfl))
    obtain ⟨outline, outlined⟩ := Option.ne_none_iff_exists'.mp outlined
    exact ⟨Text.trimBlanks outline, by rw [render_tree, parsed, Except.map, outlined]; rfl⟩
  | linear => exact ⟨_, by rw [render_linear, parsed]; rfl⟩

/-- The tokens of a text cannot be shown if the text does not lex. -/
theorem render_tokens_eq_error {text : String} {error : SyntaxError} :
    tokens.render text = .error error ↔ ∃ e, lex text = .error e ∧ .lexical e = error := by
  rw [render_tokens]
  cases lex text <;> simp [Except.map, Except.mapError]

end Stage

theorem showLine_eq_error {stage : Stage} {line : String} {failure : LineFailure} :
    showLine stage line = .error failure ↔
      ∃ error, stage.render line = .error error ∧ .malformed line error = failure := by
  rw [showLine]
  cases stage.render line <;> simp [Except.mapError]

/-- **The sequence of an expression is read back from its line.** -/
theorem Postfix.ofText_linearize {text : String} {e : Expression} (parsed : parse text = .ok e) :
    Postfix.ofText e.toTree.linearize.text = e.toTree.linearize := by
  obtain ⟨-, digits⟩ := parse_eq_ok_iff.mp parsed
  refine Postfix.ofText_text ?_ ?_
  · intro empty
    have folded := fold_linearize_of_parse parsed
    rw [empty] at folded
    cases folded
  · rintro s member number rfl
    exact digits number (Tree.number_mem_linearize.mp member)

/-- **Showing a text and evaluating it agree**, but for trees that are too high to be shown. Either
a text parses and has a value, and its postfix sequence can be shown and so can its tree, if there
are no more than 32767 nodes on the longest way down. Or the text has no value, and both are refused
with the same error. In the first case the line of the sequence reads back as the sequence of what
the text parses to, and folding it gives the value. A tree that is higher is not refused, and still
nothing is shown. The tokens are refused if the text does not lex and only then, with the error of
evaluating it, and shown otherwise. As failures of a line these errors are the same as well,
whatever the settings. -/
theorem render_agrees_with_evaluate (text : String) :
    ((∃ e line value, parse text = .ok e ∧ evaluate text = .ok value ∧
        (e.toTree.height ≤ 32767 → ∃ outline, Stage.tree.render text = .ok (some outline)) ∧
        (32767 < e.toTree.height → Stage.tree.render text = .ok none) ∧
        Stage.linear.render text = .ok (some line) ∧
        Postfix.ofText line = e.toTree.linearize ∧
        (Postfix.ofText line).fold.result = .ok value) ∨
      ∃ error, Stage.tree.render text = .error error ∧ Stage.linear.render text = .error error ∧
        evaluate text = .error (.malformed error)) ∧
    ((∀ error, Stage.tokens.render text = .error error ↔
        ∃ e, error = .lexical e ∧ evaluate text = .error (.malformed (.lexical e))) ∧
      Stage.tokens.render text ≠ .ok none) ∧
    ∀ settings failure,
      (showLine .tree text = .error failure ↔ evaluateLine settings text = .error failure) ∧
      (showLine .linear text = .error failure ↔ evaluateLine settings text = .error failure) ∧
      (showLine .tokens text = .error failure ↔
        evaluateLine settings text = .error failure ∧
          ∃ e, failure = .malformed text (.lexical e)) := by
  have evaluated : evaluate text = ((parse text).map Expression.value).mapError .malformed :=
    evaluate_eq_parse text
  refine ⟨?stages, ?tokens, ?failures⟩
  case stages =>
    cases parsed : parse text with
    | ok e =>
      have shown : Stage.linear.render text = .ok (some e.toTree.linearize.text) := by
        rw [Stage.render_linear, parsed]
        rfl
      refine .inl ⟨e, _, e.value, rfl, by rw [evaluated, parsed]; rfl,
        fun low => Stage.exists_render_of_parse parsed fun _ => low,
        (Stage.render_tree_eq_none_iff parsed).mpr, shown, Postfix.ofText_linearize parsed, ?_⟩
      rw [Postfix.ofText_linearize parsed]
      exact fold_linearize_of_parse parsed
    | error error =>
      rw [Stage.render_tree, Stage.render_linear, evaluated, parsed]
      exact .inr ⟨error, rfl, rfl, rfl⟩
  case tokens =>
    constructor
    · intro error
      rw [Stage.render_tokens_eq_error]
      simp only [lex_eq_error, evaluate_eq_error, EvalError.malformed.injEq, exists_eq_right,
        @eq_comm _ error, and_comm]
    · rw [Stage.render_tokens]
      cases lex text <;> simp [Except.map, Except.mapError]
  case failures =>
    intro settings failure
    refine ⟨?_, ?_, ?_⟩
    · simp only [showLine_eq_error, evaluateLine_eq_error, Stage.render_tree, map_eq_error]
    · simp only [showLine_eq_error, evaluateLine_eq_error, Stage.render_linear, map_eq_error]
    · simp only [showLine_eq_error, evaluateLine_eq_error, Stage.render_tokens_eq_error,
        lex_eq_error]
      constructor
      · rintro ⟨error, ⟨e, parsed, rfl⟩, rfl⟩
        exact ⟨⟨_, parsed, rfl⟩, e, rfl⟩
      · rintro ⟨⟨error, parsed, rfl⟩, e, same⟩
        cases same
        exact ⟨_, ⟨e, parsed, rfl⟩, rfl⟩

/-- A negated sum as a factor, and a text whose tokens can be shown, but nothing else. -/
theorem render_agrees_with_evaluate_negated_sum :
    (∃ value, evaluate "-(1+2)*3" = .ok value ∧
      (∃ outline, Stage.tree.render "-(1+2)*3" = .ok (some outline)) ∧
      Stage.linear.render "-(1+2)*3" = .ok (some "1 2 + neg 3 *") ∧
      Postfix.ofText "1 2 + neg 3 *" =
        [.number "1", .number "2", .operator .add, .negate, .number "3", .operator .mul] ∧
      (Postfix.ofText "1 2 + neg 3 *").fold.result = .ok value) ∧
    (∃ listing, Stage.tokens.render ")" = .ok listing) ∧
      ∃ error, Stage.tree.render ")" = .error error ∧ Stage.linear.render ")" = .error error ∧
        evaluate ")" = .error (.malformed error) := by
  let sum : Expression :=
    .mk (.mk (.number "1") .empty) (.next .plus (.mk (.number "2") .empty) .empty)
  let e : Expression :=
    .mk (.mk (.negation (.group sum)) (.next .times (.number "3") .empty)) .empty
  have parsed : parse "-(1+2)*3" = .ok e := parse_eq_ok_iff.mpr ⟨by decide, by decide⟩
  have low : e.toTree.height ≤ 32767 := by decide
  have shown : Stage.linear.render "-(1+2)*3" = .ok (some "1 2 + neg 3 *") := by
    rw [Stage.render_linear, parsed]
    decide
  let closing : List Token := [⟨.closeParen, ")", ⟨0, 1⟩⟩]
  have lexed : lex ")" = .ok closing := by decide +kernel
  have noOperand : parseTokens closing = .error ⟨.operandExpected .closeParen, ⟨0, 1⟩⟩ := by cbv
  have refused := parse_eq_error.mpr (.inr ⟨closing, _, lexed, noOperand, rfl⟩)
  refine ⟨?_, ⟨_, by rw [Stage.render_tokens, lexed]; rfl⟩, ?_⟩
  · obtain ⟨e', line, value, parsed', evaluated, outlined, -, shown', read, folded⟩ |
      ⟨error, -, hidden, -⟩ := (render_agrees_with_evaluate "-(1+2)*3").1
    · cases parsed.symm.trans parsed'
      cases shown.symm.trans shown'
      exact ⟨value, evaluated, outlined low, shown, by decide, folded⟩
    · cases shown.symm.trans hidden
  · obtain ⟨e', line, value, parsed', -⟩ | ⟨error, failures⟩ :=
      (render_agrees_with_evaluate ")").1
    · cases refused.symm.trans parsed'
    · exact ⟨error, failures⟩

/-- **A text with a value whose tree cannot be shown.** Behind 32765 minus signs a number stands
32768 levels below the root. It has a value and its postfix sequence can be shown. Its tree is
neither shown nor refused. -/
theorem render_tree_minuses :
    let text := String.ofList (List.replicate 32765 '-' ++ ['1'])
    (∃ value, evaluate text = .ok value) ∧ (∃ line, Stage.linear.render text = .ok (some line)) ∧
      Stage.tree.render text = .ok none := by
  intro text
  obtain ⟨e, parsed, height⟩ := parse_minuses 32765
  refine ⟨⟨e.value, evaluate_eq_ok.mpr ⟨e, parsed, rfl⟩⟩, ?_, ?_⟩
  · exact ⟨e.toTree.linearize.text, by rw [Stage.render_linear, parsed]; rfl⟩
  · rw [Stage.render_tree_eq_none_iff parsed, height]
    decide

end Calculator
