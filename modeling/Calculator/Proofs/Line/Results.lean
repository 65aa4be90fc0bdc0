import Calculator.Line
import Calculator.Proofs.Evaluation.Verdict
import Calculator.Proofs.Number.Printing
import Calculator.Proofs.Token.Tiling

/-!
What comes of a line.

A line that parses has a value, and every other line fails with the error of parsing it. What has a
value has a result too, unless the settings ask for more places than a number can have. A result is
again a line, since neither the expression nor the value written behind it holds a line feed.

* `evaluateLine_eq_ok`, `evaluateLine_eq_error`: the outcomes of a line, by those of parsing it.
* `evaluateLine_eq_none`: the lines that have a value and no result.
* `lineFeed_notMem_of_evaluateLine`: a result is one line.
-/

namespace Calculator

variable {settings : OutputSettings} {line : String}

theorem evaluateLine_eq_ok {out : Option String} :
    evaluateLine settings line = .ok out ↔
      ∃ e, parse line = .ok e ∧ settings.formatResult? line e.value = out := by
  rw [evaluateLine, evaluate_eq_parse]
  cases parse line <;> simp [Except.map, Except.mapError]

/-- A line has a value that cannot be written if the settings let no value be written. -/
theorem evaluateLine_eq_none :
    evaluateLine settings line = .ok none ↔
      (∃ value, evaluate line = .ok value) ∧ ¬ settings.Feasible := by
  simp only [evaluateLine_eq_ok, evaluate_eq_ok, OutputSettings.formatResult?_eq_none_iff]
  grind

theorem evaluateLine_of_evaluate {value : Float} (evaluated : evaluate line = .ok value) :
    evaluateLine settings line = .ok (settings.formatResult? line value) := by
  rw [evaluateLine, evaluated]

theorem evaluateLine_eq_error {failure : LineFailure} :
    evaluateLine settings line = .error failure ↔
      ∃ error, parse line = .error error ∧ .malformed line error = failure := by
  rw [evaluateLine, evaluate_eq_parse]
  cases parse line <;> simp [Except.map, Except.mapError, LineFailure.ofEvalError]

/-- What parses consists of digits and signs. -/
theorem lexable_of_parse {e : Expression} (parsed : parse line = .ok e) :
    ∀ c ∈ line.toList, Lexable c := by
  obtain ⟨tokens, lexed, -⟩ := parse_eq_ok.mp parsed
  exact exists_scan_iff.mp ⟨tokens, lexed⟩

/-- **A result is one line**, with and without the expression before the value. -/
theorem lineFeed_notMem_of_evaluateLine {out : String}
    (evaluated : evaluateLine settings line = .ok (some out)) : '\n' ∉ out.toList := by
  obtain ⟨e, parsed, formatted⟩ := evaluateLine_eq_ok.mp evaluated
  obtain ⟨text, written, rfl⟩ := OutputSettings.formatResult?_eq_some_iff.mp formatted
  have inExpression : '\n' ∉ line.toList := fun member =>
    absurd (lexable_of_parse parsed _ member) (by decide)
  have inValue : '\n' ∉ text.toList := fun member =>
    absurd (OutputSettings.formatValue?_characters written _ member) (by simp [Number.IsWritten])
  split
  · simp [inExpression, inValue]
  · exact inValue

end Calculator
