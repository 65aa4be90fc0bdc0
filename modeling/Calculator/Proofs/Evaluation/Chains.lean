import Calculator.Proofs.Evaluation.Groups

/-!
The value of a chain that is continued.

In the tree both tails grow to the right, so the tree does not tell how a chain groups. A text with
an operator and a product behind it shows it. Behind a sum, the whole sum so far is the left
operand, since a term added to a tail ends up innermost and `SumTail.valueAfter` goes there last.
Behind a single factor, the whole product is the right operand, since the factor comes to stand
before it and waits until the rest has its value. So sums group to the left and products to the
right.

* `Expression.extend`: a sum with one more term behind it, its text and its value.
* `Term.prepend`: a product with one more factor before it, its text and its value.
* `evaluate_chains`: the value of a text that continues a sum or a product.
-/

namespace Calculator

/-! ### One more term behind a sum -/

/-- The tail with one more term behind it. -/
def SumTail.extend (op : Additive) (last : Term) : SumTail → SumTail
  | .empty => .next op last .empty
  | .next op' term tail => .next op' term (tail.extend op last)

/-- The sum with one more term behind it. -/
def Expression.extend (op : Additive) (last : Term) : Expression → Expression
  | .mk term tail => .mk term (tail.extend op last)

theorem SumTail.leaves_extend (op : Additive) (last : Term) (tail : SumTail) :
    (tail.extend op last).toTree.leaves =
      tail.toTree.leaves ++ .operator op.operator :: last.toTree.leaves := by
  cases tail with
  | empty => simp [SumTail.extend]
  | next op' term tail => simp [SumTail.extend, SumTail.leaves_extend op last tail]

/-- The term added is combined with what the tail makes of the operand to its left. -/
theorem SumTail.valueAfter_extend (op : Additive) (last : Term) (tail : SumTail) (left : Float) :
    (tail.extend op last).valueAfter left =
      op.operator.apply (tail.valueAfter left) last.value := by
  cases tail with
  | empty => simp [SumTail.extend, SumTail.valueAfter]
  | next op' term tail =>
    rw [SumTail.extend, SumTail.valueAfter, SumTail.valueAfter,
      SumTail.valueAfter_extend op last tail]

theorem Expression.leaves_extend (op : Additive) (last : Term) (e : Expression) :
    (e.extend op last).toTree.leaves =
      e.toTree.leaves ++ .operator op.operator :: last.toTree.leaves := by
  obtain ⟨term, tail⟩ := e
  rw [Expression.extend, Expression.leaves_mk, Expression.leaves_mk, SumTail.leaves_extend,
    List.append_assoc]

/-- **A sum is continued from the left**: what stood before is one operand. -/
theorem Expression.value_extend (op : Additive) (last : Term) (e : Expression) :
    (e.extend op last).value = op.operator.apply e.value last.value := by
  obtain ⟨term, tail⟩ := e
  rw [Expression.extend, Expression.value, SumTail.valueAfter_extend, Expression.value]

/-! ### One more factor before a product -/

/-- The product with one more factor before it. -/
def Term.prepend (first : Factor) (op : Multiplicative) : Term → Term
  | .mk factor tail => .mk first (.next op factor tail)

theorem Term.leaves_prepend (first : Factor) (op : Multiplicative) (term : Term) :
    (term.prepend first op).toTree.leaves =
      first.toTree.leaves ++ .operator op.operator :: term.toTree.leaves := by
  obtain ⟨factor, tail⟩ := term
  rw [Term.prepend, Term.leaves_mk, Term.leaves_mk, ProductTail.leaves_next]

/-- **A product is continued from the right**: what stands behind is one operand. -/
theorem Term.value_prepend (first : Factor) (op : Multiplicative) (term : Term) :
    (term.prepend first op).value = op.operator.apply first.value term.value := by
  obtain ⟨factor, tail⟩ := term
  rw [Term.prepend, Term.value, ProductTail.valueAfter, Term.value]

/-! ### Texts -/

/-- A product as an expression. -/
def Term.toExpression (term : Term) : Expression := .mk term .empty

theorem Term.leaves_toExpression (term : Term) :
    term.toExpression.toTree.leaves = term.toTree.leaves := by
  simp [Term.toExpression]

theorem Term.value_toExpression (term : Term) : term.toExpression.value = term.value := by
  simp [Term.toExpression, Expression.value, SumTail.valueAfter]

/-- A text that parses has the value of its expression and no other. -/
theorem value_eq_of_parse {text : String} {e : Expression} {value : Float}
    (parsed : parse text = .ok e) (evaluated : evaluate text = .ok value) : value = e.value := by
  obtain ⟨e', parsed', rfl⟩ := evaluate_eq_ok.mp evaluated
  rw [parsed] at parsed'
  cases parsed'
  rfl

/-- If the leaves of an expression are those of two texts and an operator between them, the texts
with the sign between them have the value of the expression. -/
theorem evaluate_of_leaves {e left right : Expression} {op : Operator}
    (leaves : e.toTree.leaves = left.toTree.leaves ++ .operator op :: right.toTree.leaves)
    {before after : String} (parsedBefore : parse before = .ok left)
    (parsedAfter : parse after = .ok right) :
    evaluate (before ++ op.sign ++ after) = .ok e.value := by
  obtain ⟨rfl, digitsBefore⟩ := parse_eq_ok_iff.mp parsedBefore
  obtain ⟨rfl, digitsAfter⟩ := parse_eq_ok_iff.mp parsedAfter
  refine evaluate_eq_ok_iff_text.mpr ⟨e, ?text, ?digits, rfl⟩
  case text =>
    simp [Tree.text, leaves, String.join_append, String.join_cons, Leaf.text, String.append_assoc]
  case digits =>
    have numbers : e.toTree.numbers = left.toTree.numbers ++ right.toTree.numbers := by
      simp [Tree.numbers, leaves, List.filterMap_cons, Leaf.number?]
    rw [numbers]
    exact List.forall_mem_append.mpr ⟨digitsBefore, digitsAfter⟩

/-- A sum before an operator of sums and a product. -/
theorem evaluate_extend {sum product : String} {e : Expression} {term : Term} (op : Additive)
    (parsedSum : parse sum = .ok e) (parsedProduct : parse product = .ok term.toExpression) :
    evaluate (sum ++ op.operator.sign ++ product) = .ok (op.operator.apply e.value term.value) := by
  have leaves : (e.extend op term).toTree.leaves =
      e.toTree.leaves ++ .operator op.operator :: term.toExpression.toTree.leaves := by
    rw [Expression.leaves_extend, Term.leaves_toExpression]
  rw [evaluate_of_leaves leaves parsedSum parsedProduct, Expression.value_extend]

/-- A single factor before an operator of products and a product. -/
theorem evaluate_prepend {operand product : String} {factor : Factor} {term : Term}
    (op : Multiplicative) (parsedOperand : parse operand = .ok factor.toExpression)
    (parsedProduct : parse product = .ok term.toExpression) :
    evaluate (operand ++ op.operator.sign ++ product) =
      .ok (op.operator.apply factor.value term.value) := by
  have leaves : (term.prepend factor op).toExpression.toTree.leaves =
      factor.toExpression.toTree.leaves ++
        .operator op.operator :: term.toExpression.toTree.leaves := by
    rw [Term.leaves_toExpression, Term.leaves_prepend, Term.leaves_toExpression]
    simp [Factor.toExpression]
  rw [evaluate_of_leaves leaves parsedOperand parsedProduct, Term.value_toExpression,
    Term.value_prepend]

/-- **Sums group to the left and products to the right.** Let a text be a product, that is an
expression with no operator of sums outside parentheses. Behind a text with any value, after a plus
or a minus, it is the right operand and the whole text before it is the left one. Behind a text that
is a single factor, after a `*` or a `/`, the factor is the left operand and the whole product the
right one. -/
theorem evaluate_chains {product : String} {term : Term} {y : Float}
    (parsed : parse product = .ok (.mk term .empty)) (right : evaluate product = .ok y) :
    (∀ sum x, evaluate sum = .ok x →
      evaluate (sum ++ "+" ++ product) = .ok (x + y) ∧
        evaluate (sum ++ "-" ++ product) = .ok (x - y)) ∧
    ∀ operand factor z, parse operand = .ok (.mk (.mk factor .empty) .empty) →
      evaluate operand = .ok z →
        evaluate (operand ++ "*" ++ product) = .ok (z * y) ∧
          evaluate (operand ++ "/" ++ product) = .ok (z / y) := by
  obtain rfl : y = term.value := (value_eq_of_parse parsed right).trans term.value_toExpression
  refine ⟨?sum, ?product⟩
  case sum =>
    intro sum x evaluated
    obtain ⟨e, parsedSum, rfl⟩ := evaluate_eq_ok.mp evaluated
    exact ⟨evaluate_extend .plus parsedSum parsed, evaluate_extend .minus parsedSum parsed⟩
  case product =>
    intro operand factor z parsedOperand evaluated
    obtain rfl : z = factor.value :=
      (value_eq_of_parse parsedOperand evaluated).trans factor.value_toExpression
    exact ⟨evaluate_prepend .times parsedOperand parsed,
      evaluate_prepend .over parsedOperand parsed⟩

/-- Seven, a difference, and minus three, a negated group, before the product `-6/4/2`. -/
theorem evaluate_chains_negative_product :
    evaluate "9-2" = .ok 7.0 ∧ evaluate "-(3)" = .ok (-3.0) ∧ evaluate "-6/4/2" = .ok (-3.0) ∧
      evaluate "9-2+-6/4/2" = .ok 4.0 ∧ evaluate "9-2--6/4/2" = .ok 10.0 ∧
      evaluate "-(3)*-6/4/2" = .ok 9.0 ∧ evaluate "-(3)/-6/4/2" = .ok 1.0 := by
  let seven : Expression :=
    .mk (.mk (.number "9") .empty) (.next .minus (.mk (.number "2") .empty) .empty)
  let minusThree : Factor := .negation (.group (.mk (.mk (.number "3") .empty) .empty))
  let product : Term :=
    .mk (.negation (.number "6")) (.next .over (.number "4") (.next .over (.number "2") .empty))
  have valueSeven : Number.valueOf "9" - Number.valueOf "2" = 7.0 := by decide +kernel
  have valueThree : -Number.valueOf "3" = -3.0 := by decide +kernel
  have valueProduct : -Number.valueOf "6" / (Number.valueOf "4" / Number.valueOf "2") = -3.0 := by
    decide +kernel
  have parsedProduct : parse "-6/4/2" = .ok (.mk product .empty) :=
    parse_eq_ok_iff.mpr ⟨by decide, by decide⟩
  have parsedOperand : parse "-(3)" = .ok (.mk (.mk minusThree .empty) .empty) :=
    parse_eq_ok_iff.mpr ⟨by decide, by decide⟩
  have left : evaluate "9-2" = .ok 7.0 :=
    evaluate_eq_ok_iff_text.mpr ⟨seven, by decide, by decide, valueSeven⟩
  have operand : evaluate "-(3)" = .ok (-3.0) := evaluate_eq_ok.mpr ⟨_, parsedOperand, valueThree⟩
  have right : evaluate "-6/4/2" = .ok (-3.0) := evaluate_eq_ok.mpr ⟨_, parsedProduct, valueProduct⟩
  obtain ⟨sums, products⟩ := evaluate_chains parsedProduct right
  obtain ⟨sum, difference⟩ := sums _ _ left
  obtain ⟨multiple, quotient⟩ := products _ _ _ parsedOperand operand
  have values : (7.0 + -3.0 : Float) = 4.0 ∧ (7.0 - -3.0 : Float) = 10.0 ∧
      (-3.0 * -3.0 : Float) = 9.0 ∧ (-3.0 / -3.0 : Float) = 1.0 := by
    decide +kernel
  obtain ⟨four, ten, nine, one⟩ := values
  exact ⟨left, operand, right, four ▸ sum, ten ▸ difference, nine ▸ multiple, one ▸ quotient⟩

end Calculator
