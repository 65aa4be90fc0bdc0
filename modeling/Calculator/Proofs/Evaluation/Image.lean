import Calculator.Proofs.Evaluation.Groups
import Calculator.Proofs.Postfix.Formula
import Calculator.Proofs.Postfix.Leaves

/-!
Which postfix sequences come from a text.

Flattening an expression gives a sequence that can be folded. The other way round, every sequence
that can be folded has a formula, and a formula can be written as an expression: with parentheses
around every operation on two operands, no rule of the grammar has a say in what groups with what.
Flattening drops the parentheses and gives the sequence back.

So the order and the grouping that the grammar prefers are no restriction. The numbers are: a text
has runs of digits for numbers, and a sequence may have other texts that can be read.

* `Formula.toFactor`, `Formula.linearize_toFactor`: a formula as an operand of an expression.
* `exists_fold_iff_exists_parse`: the sequences of digits that can be folded are those of texts.
-/

namespace Calculator

/-- The symbols of two operands with an operator between them, in a sum or in a product. -/
theorem Operator.linearize_join (op : Operator) (left right : Factor) :
    (op.join left right).toTree.linearize =
      left.toTree.linearize ++ right.toTree.linearize ++ [.operator op] := by
  cases op <;> simp [Operator.join, Additive.operator, Multiplicative.operator]

namespace Formula

/-- A formula as it is written: every operation on two operands is a group. -/
def toFactor : Formula → Factor
  | .number text => .number text
  | .negation operand => .negation operand.toFactor
  | .binary op left right => .group (op.join left.toFactor right.toFactor)

/-- **Flattening what a formula is written as gives its symbols back.** -/
theorem linearize_toFactor (f : Formula) : f.toFactor.toTree.linearize = f.symbols := by
  induction f with
  | number text => rw [toFactor, Factor.linearize_number, symbols]
  | negation operand ih => rw [toFactor, Factor.linearize_negation, ih, symbols]
  | binary op left right ihLeft ihRight =>
    rw [toFactor, Factor.linearize_group, Operator.linearize_join, ihLeft, ihRight, symbols]

theorem linearize_toExpression (f : Formula) :
    f.toFactor.toExpression.toTree.linearize = f.symbols := by
  simp [Factor.toExpression, linearize_toFactor]

/-- A formula with runs of digits for numbers is what some text says. -/
theorem exists_parse {f : Formula}
    (digits : ∀ text, Symbol.number text ∈ f.symbols → IsDigits text) :
    ∃ text e, parse text = .ok e ∧ e.toTree.linearize = f.symbols := by
  have symbols := f.linearize_toExpression
  refine ⟨_, f.toFactor.toExpression, parse_eq_ok_iff.mpr ⟨rfl, ?_⟩, symbols⟩
  intro number member
  apply digits
  rw [← symbols]
  exact Tree.number_mem_linearize.mpr member

end Formula

/-- **Texts flatten to the sequences that can be folded, and to all of them.** A sequence whose
numbers are runs of digits has a value if and only if some text parses to an expression that it is
the sequence of. -/
theorem exists_fold_iff_exists_parse {p : Postfix}
    (digits : ∀ text, Symbol.number text ∈ p → IsDigits text) :
    (∃ value, p.fold.result = .ok value) ↔
      ∃ text e, parse text = .ok e ∧ e.toTree.linearize = p := by
  constructor
  · rintro ⟨value, folded⟩
    obtain ⟨f, -, rfl, -⟩ := Postfix.fold_eq_ok_iff_formula.mp folded
    exact Formula.exists_parse digits
  · rintro ⟨text, e, parsed, rfl⟩
    exact ⟨e.value, fold_linearize_of_parse parsed⟩

/-- A difference to the right of another one and a product to the left of a quotient, which are not
how the grammar groups, and a sequence without an operand for its minus. -/
theorem exists_fold_iff_exists_parse_regrouped :
    let difference : Postfix :=
      [.number "9", .number "05", .number "1", .operator .sub, .operator .sub]
    let quotient : Postfix :=
      [.number "8", .number "4", .operator .mul, .number "2", .operator .div, .negate]
    let short : Postfix := [.number "1", .operator .sub, .number "2"]
    (∃ text e, parse text = .ok e ∧ e.toTree.linearize = difference) ∧
      (∃ text e, parse text = .ok e ∧ e.toTree.linearize = quotient) ∧
      ¬ ∃ text e, parse text = .ok e ∧ e.toTree.linearize = short := by
  intro difference quotient short
  have folds : difference.fold.result = .ok 5.0 := by decide +kernel
  have foldsToo : quotient.fold.result = .ok (-16.0) := by decide +kernel
  have fails : short.fold.result = .error (.missingOperand (.operator .sub) 1) := by decide +kernel
  refine ⟨(exists_fold_iff_exists_parse ?_).mp ⟨_, folds⟩,
    (exists_fold_iff_exists_parse ?_).mp ⟨_, foldsToo⟩,
    mt (exists_fold_iff_exists_parse ?_).mpr ?_⟩
  · simp [difference, IsDigits]
  · simp [quotient, IsDigits]
  · simp [short, IsDigits]
  · rintro ⟨value, folded⟩
    rw [fails] at folded
    cases folded

end Calculator
