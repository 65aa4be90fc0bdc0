import Calculator.Fold
import Calculator.Proofs.Grammar.Shape

/-!
The value of an expression, by recursion on the grammar.

Folding goes the long way round: the tree is flattened, operators behind operands, and the postfix
sequence is worked off over a stack. `Expression.value` is the direct way. A sum is taken from the
left, a product from the right, and a factor is the value inside, its negation or the number read.
The tails have no value by themselves: `valueAfter` continues from the operand to their left.

`Expression.evaluation` is the same recursion with what folding adds to the values, the record of
each operation and the failure at a number that cannot be read. It is what the induction needs: one
equation for each rule of the grammar says what running the rule's symbols does to a stack.

* `run_linearize_expression` and its like: the symbols of an expression, a term or a factor put its
  value on the stack; those of a tail put the value after it in the place of the operand on top.
* `result_evaluation_expression`: the result is the value, or the first number that cannot be read.
* `result_fold_linearize`: folding the flattened tree gives that result.
-/

namespace Calculator

/-! ### Values -/

/-- The value of a number as written; a text that cannot be read counts as zero. -/
def Number.valueOf (text : String) : Float := (Number.ofText? text).getD 0

mutual

/-- The value of a sum: its terms from left to right. -/
def Expression.value : Expression → Float
  | .mk term tail => tail.valueAfter term.value

/-- The value of a product: `f₁ op₁ (f₂ op₂ (f₃ …))`. -/
def Term.value : Term → Float
  | .mk factor tail => tail.valueAfter factor.value

/-- The value of a sum of which `left` is the part before the tail. -/
def SumTail.valueAfter : SumTail → Float → Float
  | .empty, left => left
  | .next op term tail, left => tail.valueAfter (op.operator.apply left term.value)

/-- The value of a product of which `left` is the factor before the tail. -/
def ProductTail.valueAfter : ProductTail → Float → Float
  | .empty, left => left
  | .next op factor tail, left => op.operator.apply left (tail.valueAfter factor.value)

/-- The value of a group, a negation or a number. -/
def Factor.value : Factor → Float
  | .group inner => inner.value
  | .negation operand => -operand.value
  | .number text => Number.valueOf text

end

/-- The first of some texts that cannot be read as a number. -/
def Number.unreadable? (texts : List String) : Option String :=
  texts.find? fun text => (Number.ofText? text).isNone

/-! ### Evaluation with records -/

/-- Applies an operator and leaves the record of it. -/
def Operator.perform (op : Operator) (left right : Float) : Logged FoldError Float := do
  .leave (.combined op left right (op.apply left right))
  pure (op.apply left right)

/-- Negates an operand and leaves the record of it. -/
def Number.negate (operand : Float) : Logged FoldError Float := do
  .leave (.negated operand (-operand))
  pure (-operand)

/-- Reads a number, or fails with its text. -/
def Number.read (text : String) : Logged FoldError Float :=
  match Number.ofText? text with
  | some value => pure value
  | none => .fail (.invalidNumber text)

mutual

/-- Evaluates a sum, operands before operators. -/
def Expression.evaluation : Expression → Logged FoldError Float
  | .mk term tail => do tail.evaluationAfter (← term.evaluation)

/-- Evaluates a product. -/
def Term.evaluation : Term → Logged FoldError Float
  | .mk factor tail => do tail.evaluationAfter (← factor.evaluation)

/-- Evaluates the tail of a sum after the operand `left`. -/
def SumTail.evaluationAfter : SumTail → Float → Logged FoldError Float
  | .empty, left => pure left
  | .next op term tail, left => do
    let right ← term.evaluation
    tail.evaluationAfter (← op.operator.perform left right)

/-- Evaluates the tail of a product after the operand `left`. -/
def ProductTail.evaluationAfter : ProductTail → Float → Logged FoldError Float
  | .empty, left => pure left
  | .next op factor tail, left => do
    let right ← factor.evaluation
    op.operator.perform left (← tail.evaluationAfter right)

/-- Evaluates a factor. -/
def Factor.evaluation : Factor → Logged FoldError Float
  | .group inner => inner.evaluation
  | .negation operand => do Number.negate (← operand.evaluation)
  | .number text => Number.read text

end

/-! ### Running the symbols of a tree -/

namespace Postfix

theorem step_number (position : Nat) (text : String) (operands : List Float) :
    step position (.number text) operands =
      (do let value ← Number.read text; pure (value :: operands)) := by
  simp only [step, Number.read]
  cases Number.ofText? text with
  | none => rfl
  | some value => simp

theorem step_operator (position : Nat) (op : Operator) (left right : Float)
    (operands : List Float) :
    step position (.operator op) (right :: left :: operands) =
      (do let value ← op.perform left right; pure (value :: operands)) := by
  simp [step, Operator.perform]

theorem step_negate (position : Nat) (operand : Float) (operands : List Float) :
    step position .negate (operand :: operands) =
      (do let value ← Number.negate operand; pure (value :: operands)) := by
  simp [step, Number.negate]

theorem run_singleton (position : Nat) (symbol : Symbol) (operands : List Float) :
    run position [symbol] operands = step position symbol operands := by
  simp [run]

end Postfix

mutual

/-- The symbols of an expression put its value on the stack and leave what is below alone. -/
theorem run_linearize_expression : ∀ (e : Expression) (position : Nat) (operands : List Float),
    Postfix.run position e.toTree.linearize operands =
      (do let value ← e.evaluation; pure (value :: operands))
  | .mk term tail, position, operands => by
    rw [Expression.linearize_mk, Postfix.run_append, run_linearize_term term]
    simp only [bind_assoc, pure_bind, run_linearize_sumTail tail, Expression.evaluation]

/-- The symbols of a term put its value on the stack and leave what is below alone. -/
theorem run_linearize_term : ∀ (e : Term) (position : Nat) (operands : List Float),
    Postfix.run position e.toTree.linearize operands =
      (do let value ← e.evaluation; pure (value :: operands))
  | .mk factor tail, position, operands => by
    rw [Term.linearize_mk, Postfix.run_append, run_linearize_factor factor]
    simp only [bind_assoc, pure_bind, run_linearize_productTail tail, Term.evaluation]

/-- The symbols of the tail of a sum replace the operand on top. The operator stands before the
inner tail, so the operand is combined with the term before the tail goes on from there. -/
theorem run_linearize_sumTail :
    ∀ (e : SumTail) (position : Nat) (left : Float) (operands : List Float),
    Postfix.run position e.toTree.linearize (left :: operands) =
      (do let value ← e.evaluationAfter left; pure (value :: operands))
  | .empty, position, left, operands => by
    simp [Postfix.run, SumTail.evaluationAfter]
  | .next op term tail, position, left, operands => by
    rw [SumTail.linearize_next, Postfix.run_append, run_linearize_term term]
    simp only [Postfix.run, Postfix.step_operator, bind_assoc, pure_bind,
      run_linearize_sumTail tail, SumTail.evaluationAfter]

/-- The symbols of the tail of a product replace the operand on top. The operator stands behind the
inner tail, so that the operand waits below until the rest of the product has its value. -/
theorem run_linearize_productTail :
    ∀ (e : ProductTail) (position : Nat) (left : Float) (operands : List Float),
    Postfix.run position e.toTree.linearize (left :: operands) =
      (do let value ← e.evaluationAfter left; pure (value :: operands))
  | .empty, position, left, operands => by
    simp [Postfix.run, ProductTail.evaluationAfter]
  | .next op factor tail, position, left, operands => by
    rw [ProductTail.linearize_next, Postfix.run_append, run_linearize_factor factor]
    simp only [Postfix.run_append, Postfix.run_singleton, Postfix.step_operator, bind_assoc,
      pure_bind, run_linearize_productTail tail, ProductTail.evaluationAfter]

/-- The symbols of a factor put its value on the stack and leave what is below alone. -/
theorem run_linearize_factor : ∀ (e : Factor) (position : Nat) (operands : List Float),
    Postfix.run position e.toTree.linearize operands =
      (do let value ← e.evaluation; pure (value :: operands))
  | .group inner, position, operands => by
    rw [Factor.linearize_group, run_linearize_expression inner, Factor.evaluation]
  | .negation operand, position, operands => by
    rw [Factor.linearize_negation, Postfix.run_append, run_linearize_factor operand]
    simp only [Postfix.run_singleton, Postfix.step_negate, bind_assoc, pure_bind,
      Factor.evaluation]
  | .number text, position, operands => by
    rw [Factor.linearize_number, Postfix.run_singleton, Postfix.step_number, Factor.evaluation]

end

/-- Folding the flattened tree of an expression is evaluating the expression, with the record of
the fold behind the records of the operations. -/
theorem fold_linearize (e : Expression) :
    e.toTree.linearize.fold = (do
      let value ← e.evaluation
      .leave (.folded e.toTree.linearize.length value)
      pure value) := by
  simp only [Postfix.fold, run_linearize_expression, bind_assoc, pure_bind]

/-! ### The result of an evaluation -/

/-- The value if all the texts can be read, or else the failure at the first that cannot. -/
def Number.verdict (texts : List String) (value : Float) : Except FoldError Float :=
  match Number.unreadable? texts with
  | some text => .error (.invalidNumber text)
  | none => .ok value

@[simp] theorem Number.verdict_nil (value : Float) : Number.verdict [] value = .ok value := rfl

/-- Verdicts compose as the texts do: a failure among the earlier texts comes first. -/
theorem Number.verdict_bind (before after : List String) (value : Float) (f : Float → Float) :
    (Number.verdict before value >>= fun v => Number.verdict after (f v)) =
      Number.verdict (before ++ after) (f value) := by
  unfold Number.verdict Number.unreadable?
  rw [List.find?_append]
  cases before.find? fun text => (Number.ofText? text).isNone <;> rfl

theorem Number.verdict_map (texts : List String) (value : Float) (f : Float → Float) :
    (Number.verdict texts value >>= fun v => .ok (f v)) = Number.verdict texts (f value) := by
  unfold Number.verdict
  cases Number.unreadable? texts <;> rfl

theorem Number.result_read (text : String) :
    (Number.read text).result = Number.verdict [text] (Number.valueOf text) := by
  unfold Number.read Number.verdict Number.unreadable? Number.valueOf
  cases h : Number.ofText? text <;> simp [h, Logged.result_pure, Logged.result_fail]

theorem Operator.result_perform (op : Operator) (left right : Float) :
    (op.perform left right).result = .ok (op.apply left right) := rfl

mutual

/-- The result of evaluating an expression is its value, unless a number cannot be read. -/
theorem result_evaluation_expression : ∀ e : Expression,
    e.evaluation.result = Number.verdict e.toTree.numbers e.value
  | .mk term tail => by
    rw [Expression.evaluation, Logged.result_bind, result_evaluation_term term]
    simp only [result_evaluation_sumTail tail, Number.verdict_bind, Expression.numbers_mk,
      Expression.value]

/-- The result of evaluating a term is its value, unless a number cannot be read. -/
theorem result_evaluation_term : ∀ e : Term,
    e.evaluation.result = Number.verdict e.toTree.numbers e.value
  | .mk factor tail => by
    rw [Term.evaluation, Logged.result_bind, result_evaluation_factor factor]
    simp only [result_evaluation_productTail tail, Number.verdict_bind, Term.numbers_mk,
      Term.value]

/-- The result of evaluating the tail of a sum is the value after the left operand, unless a number
of the tail cannot be read. -/
theorem result_evaluation_sumTail : ∀ (e : SumTail) (left : Float),
    (e.evaluationAfter left).result = Number.verdict e.toTree.numbers (e.valueAfter left)
  | .empty, left => by
    simp [SumTail.evaluationAfter, SumTail.valueAfter, Logged.result_pure]
  | .next op term tail, left => by
    have combined : ∀ right,
        (do let v ← op.operator.perform left right; tail.evaluationAfter v).result =
          Number.verdict tail.toTree.numbers
            (tail.valueAfter (op.operator.apply left right)) := by
      intro right
      rw [Logged.result_bind, Operator.result_perform]
      exact result_evaluation_sumTail tail _
    rw [SumTail.evaluationAfter, Logged.result_bind, result_evaluation_term term]
    simp only [combined]
    rw [SumTail.numbers_next, SumTail.valueAfter]
    exact Number.verdict_bind _ _ _ fun right => tail.valueAfter (op.operator.apply left right)

/-- The result of evaluating the tail of a product is the value after the left operand, unless a
number of the tail cannot be read. -/
theorem result_evaluation_productTail : ∀ (e : ProductTail) (left : Float),
    (e.evaluationAfter left).result = Number.verdict e.toTree.numbers (e.valueAfter left)
  | .empty, left => by
    simp [ProductTail.evaluationAfter, ProductTail.valueAfter, Logged.result_pure]
  | .next op factor tail, left => by
    have combined : ∀ right,
        (do let v ← tail.evaluationAfter right; op.operator.perform left v).result =
          Number.verdict tail.toTree.numbers
            (op.operator.apply left (tail.valueAfter right)) := by
      intro right
      rw [Logged.result_bind, result_evaluation_productTail tail]
      exact Number.verdict_map _ _ (op.operator.apply left)
    rw [ProductTail.evaluationAfter, Logged.result_bind, result_evaluation_factor factor]
    simp only [combined]
    rw [ProductTail.numbers_next, ProductTail.valueAfter]
    exact Number.verdict_bind _ _ _ fun right => op.operator.apply left (tail.valueAfter right)

/-- The result of evaluating a factor is its value, unless a number cannot be read. -/
theorem result_evaluation_factor : ∀ e : Factor,
    e.evaluation.result = Number.verdict e.toTree.numbers e.value
  | .group inner => by
    rw [Factor.evaluation, result_evaluation_expression inner, Factor.numbers_group, Factor.value]
  | .negation operand => by
    rw [Factor.evaluation, Logged.result_bind, result_evaluation_factor operand,
      Factor.numbers_negation, Factor.value]
    exact Number.verdict_map _ _ fun v => -v
  | .number text => by
    rw [Factor.evaluation, Number.result_read, Factor.numbers_number, Factor.value]

end

/-- What folding the flattened tree of an expression results in. -/
theorem result_fold_linearize (e : Expression) :
    e.toTree.linearize.fold.result = Number.verdict e.toTree.numbers e.value := by
  rw [fold_linearize, Logged.result_bind, result_evaluation_expression]
  exact Number.verdict_map _ _ id

/-- **Folding a flattened tree is evaluating the tree directly.** A tree in the shape of an
expression is the tree of one expression, and folding its symbols gives the value of that: sums
from the left, products from the right. If some number cannot be read, the first from the left is
the failure, and there is no other failure. -/
theorem fold_linearize_of_hasShape {t : Tree} (shape : t.HasShape .expression) :
    ∃ e : Expression, e.toTree = t ∧
      t.linearize.fold.result =
        match Number.unreadable? t.numbers with
        | some text => .error (.invalidNumber text)
        | none => .ok e.value := by
  obtain ⟨e, rfl⟩ := shape.isTyped
  exact ⟨e, rfl, result_fold_linearize e⟩

/-- The tree of `7-6/3*-(2)-1` is in shape, and folding it takes the sum from the left and the
product from the right. -/
theorem fold_linearize_mixed_chain :
    let e : Expression :=
      .mk (.mk (.number "7") .empty)
        (.next .minus
          (.mk (.number "6")
            (.next .over (.number "3")
              (.next .times
                (.negation (.group (.mk (.mk (.number "2") .empty) .empty))) .empty)))
          (.next .minus (.mk (.number "1") .empty) .empty))
    let v := Number.valueOf
    e.toTree.HasShape .expression ∧
      e.toTree.linearize.fold.result =
        .ok (v "7" - v "6" / (v "3" * -v "2") - v "1") := by
  intro e v
  refine ⟨e.hasShape_toTree, ?_⟩
  obtain ⟨e', same, result⟩ := fold_linearize_of_hasShape e.hasShape_toTree
  rw [Expression.toTree_injective same] at result
  have readable : Number.unreadable? e.toTree.numbers = none := by decide
  rw [readable] at result
  exact result

end Calculator
