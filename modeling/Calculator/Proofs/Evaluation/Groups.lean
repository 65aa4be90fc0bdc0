import Calculator.Proofs.Evaluation.Verdict

/-!
The value of a text that is put together from others.

A text between parentheses is a group, whatever is in it. It takes no part in the precedence and
the associativity of the operators beside it, so its value is that of the text alone. This comes out
on the side of the trees: the text of an expression is the text of its parts in order, and so is its
value by the rules of the grammar. No run of the parser has to be followed through the text.

* `evaluate_eq_ok_iff_text`: the texts that have a value are those of the expressions with readable
  numbers.
* `Operator.join`: two operands with an operator between them, its text and its value.
* `evaluate_groups`: a group, a negated group, and two groups with an operator between them.
-/

namespace Calculator

/-! ### Texts and values -/

/-- A text has a value exactly when it is the text of an expression whose numbers are runs of
digits, and the value is that of the expression. -/
theorem evaluate_eq_ok_iff_text {text : String} {value : Float} :
    evaluate text = .ok value ↔
      ∃ e : Expression, e.toTree.text = text ∧ (∀ number ∈ e.toTree.numbers, IsDigits number) ∧
        e.value = value := by
  rw [evaluate_eq_ok]
  constructor
  · rintro ⟨e, parsed, same⟩
    obtain ⟨rfl, digits⟩ := parse_eq_ok_iff.mp parsed
    exact ⟨e, rfl, digits, same⟩
  · rintro ⟨e, rfl, digits, same⟩
    exact ⟨e, parse_eq_ok_iff.mpr ⟨rfl, digits⟩, same⟩

theorem Factor.text_group (inner : Expression) :
    (Factor.group inner).toTree.text = "(" ++ inner.toTree.text ++ ")" := by
  simp [Tree.text, String.join_append, String.join_cons, Leaf.text, String.append_assoc]

theorem Factor.text_negation (operand : Factor) :
    (Factor.negation operand).toTree.text = "-" ++ operand.toTree.text := by
  simp [Tree.text, String.join_cons, Leaf.text]

/-! ### Expressions of one and of two operands -/

/-- A single operand as an expression. -/
def Factor.toExpression (factor : Factor) : Expression := .mk (.mk factor .empty) .empty

theorem Factor.text_toExpression (factor : Factor) :
    factor.toExpression.toTree.text = factor.toTree.text := by
  simp [Factor.toExpression, Tree.text]

theorem Factor.numbers_toExpression (factor : Factor) :
    factor.toExpression.toTree.numbers = factor.toTree.numbers := by
  simp [Factor.toExpression]

theorem Factor.value_toExpression (factor : Factor) :
    factor.toExpression.value = factor.value := by
  simp [Factor.toExpression, Expression.value, Term.value, SumTail.valueAfter,
    ProductTail.valueAfter]

/-- Two operands with an operator between them: a sum of two terms or a product of two factors. -/
def Operator.join (op : Operator) (left right : Factor) : Expression :=
  match op with
  | .add => .mk (.mk left .empty) (.next .plus (.mk right .empty) .empty)
  | .sub => .mk (.mk left .empty) (.next .minus (.mk right .empty) .empty)
  | .mul => .mk (.mk left (.next .times right .empty)) .empty
  | .div => .mk (.mk left (.next .over right .empty)) .empty

theorem Operator.leaves_join (op : Operator) (left right : Factor) :
    (op.join left right).toTree.leaves =
      left.toTree.leaves ++ .operator op :: right.toTree.leaves := by
  cases op <;> simp [Operator.join, Additive.operator, Multiplicative.operator]

theorem Operator.text_join (op : Operator) (left right : Factor) :
    (op.join left right).toTree.text = left.toTree.text ++ op.sign ++ right.toTree.text := by
  simp [Tree.text, Operator.leaves_join, String.join_append, String.join_cons, Leaf.text,
    String.append_assoc]

theorem Operator.numbers_join (op : Operator) (left right : Factor) :
    (op.join left right).toTree.numbers = left.toTree.numbers ++ right.toTree.numbers := by
  simp [Tree.numbers, Operator.leaves_join, List.filterMap_cons, Leaf.number?]

theorem Operator.value_join (op : Operator) (left right : Factor) :
    (op.join left right).value = op.apply left.value right.value := by
  cases op <;>
    simp [Operator.join, Expression.value, Term.value, SumTail.valueAfter, ProductTail.valueAfter,
      Additive.operator, Multiplicative.operator]

/-! ### Groups -/

/-- **A group has the value of what stands in it**, before and behind any operator. Let two texts
have a value each. Then the first in parentheses has the same value, with a minus before it the
negated one, and both in parentheses with an operator between them have the value of the operator
on the two. -/
theorem evaluate_groups {first second : String} {x y : Float} (left : evaluate first = .ok x)
    (right : evaluate second = .ok y) (op : Operator) :
    evaluate ("(" ++ first ++ ")") = .ok x ∧ evaluate ("-(" ++ first ++ ")") = .ok (-x) ∧
      evaluate ("(" ++ first ++ ")" ++ op.sign ++ "(" ++ second ++ ")") =
        .ok (op.apply x y) := by
  obtain ⟨e, rfl, digits, rfl⟩ := evaluate_eq_ok_iff_text.mp left
  obtain ⟨e', rfl, digits', rfl⟩ := evaluate_eq_ok_iff_text.mp right
  refine ⟨?group, ?negation, ?join⟩
  case group =>
    refine evaluate_eq_ok_iff_text.mpr ⟨(Factor.group e).toExpression, ?_, ?_, ?_⟩
    · rw [Factor.text_toExpression, Factor.text_group]
    · rw [Factor.numbers_toExpression, Factor.numbers_group]
      exact digits
    · rw [Factor.value_toExpression, Factor.value]
  case negation =>
    refine evaluate_eq_ok_iff_text.mpr ⟨(Factor.negation (.group e)).toExpression, ?_, ?_, ?_⟩
    · rw [Factor.text_toExpression, Factor.text_negation, Factor.text_group,
        ← String.append_assoc, ← String.append_assoc]
      rfl
    · rw [Factor.numbers_toExpression, Factor.numbers_negation, Factor.numbers_group]
      exact digits
    · rw [Factor.value_toExpression, Factor.value, Factor.value]
  case join =>
    refine evaluate_eq_ok_iff_text.mpr ⟨op.join (.group e) (.group e'), ?_, ?_, ?_⟩
    · rw [Operator.text_join, Factor.text_group, Factor.text_group]
      simp only [String.append_assoc]
    · rw [Operator.numbers_join, Factor.numbers_group, Factor.numbers_group]
      exact List.forall_mem_append.mpr ⟨digits, digits'⟩
    · rw [Operator.value_join, Factor.value, Factor.value]

/-- Two and minus four, each an expression with an operator of its own, and the quotient of both. -/
theorem evaluate_groups_quotient :
    evaluate "8-2*3" = .ok 2.0 ∧ evaluate "-(4)" = .ok (-4.0) ∧ evaluate "(8-2*3)" = .ok 2.0 ∧
      evaluate "-(8-2*3)" = .ok (-2.0) ∧ evaluate "(8-2*3)/(-(4))" = .ok (-0.5) := by
  let two : Expression :=
    .mk (.mk (.number "8") .empty)
      (.next .minus (.mk (.number "2") (.next .times (.number "3") .empty)) .empty)
  let minusFour : Expression :=
    .mk (.mk (.negation (.group (.mk (.mk (.number "4") .empty) .empty))) .empty) .empty
  have valueTwo : Number.valueOf "8" - Number.valueOf "2" * Number.valueOf "3" = 2.0 := by
    decide +kernel
  have valueMinusFour : -Number.valueOf "4" = -4.0 := by decide +kernel
  have left : evaluate "8-2*3" = .ok 2.0 :=
    evaluate_eq_ok_iff_text.mpr ⟨two, by decide, by decide, valueTwo⟩
  have right : evaluate "-(4)" = .ok (-4.0) :=
    evaluate_eq_ok_iff_text.mpr ⟨minusFour, by decide, by decide, valueMinusFour⟩
  obtain ⟨group, negation, quotient⟩ := evaluate_groups left right .div
  have value : Operator.div.apply 2.0 (-4.0) = -0.5 := by decide +kernel
  exact ⟨left, right, group, negation, value ▸ quotient⟩

end Calculator
