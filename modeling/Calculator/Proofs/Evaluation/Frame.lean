import Calculator.Proofs.Evaluation.Trace
import Calculator.Proofs.Postfix.Formula

/-!
What a run leaves alone on the stack.

A run that goes through on some operands never looks below them. With more operands below it does
the same on top of these, step by step, and at every step they lie where they did. So it is enough
to know what the symbols of a node do to the operands that they use. Those of an expression, a term
or a factor use none and put the value on top. Those of a tail use one, the operand to its left,
which they replace; without it they come to an operator that finds only its right operand. An empty
tail has no symbols.

* `Postfix.step_frame`, `Postfix.run_frame`: more operands below make no difference.
* `Postfix.Turns`: what a run makes of the operands it uses, and that it touches no others.
* `Postfix.turns_iff`: it is enough to run on the operands used.
* `linearize_turns`: the operands that the symbols of a node use, for each rule of the grammar.
-/

namespace Calculator

namespace Postfix

variable {position : Nat} {symbol : Symbol} {p : Postfix} {operands used made : List Float}

/-! ### The frame of a run -/

/-- A symbol that can be applied is applied the same way with more operands below. -/
theorem step_frame (applied : (step position symbol operands).result = .ok made)
    (below : List Float) :
    (step position symbol (operands ++ below)).result = .ok (made ++ below) := by
  cases symbol with
  | number text =>
    simp only [step] at applied ⊢
    cases read : Number.ofText? text with
    | none =>
      rw [read] at applied
      cases applied
    | some value =>
      rw [read] at applied
      cases applied
      rfl
  | operator op =>
    rcases operands with _ | ⟨right, _ | ⟨left, operands⟩⟩
    · cases applied
    · cases applied
    · cases applied
      rfl
  | negate =>
    rcases operands with _ | ⟨operand, operands⟩
    · cases applied
    · cases applied
      rfl

/-- **A run that goes through goes through the same way with more operands below.** -/
theorem run_frame (ran : (run position p operands).result = .ok made) (below : List Float) :
    (run position p (operands ++ below)).result = .ok (made ++ below) := by
  induction p generalizing position operands with
  | nil =>
    cases ran
    rfl
  | cons symbol p ih =>
    rw [result_run_cons] at ran ⊢
    cases applied : (step position symbol operands).result with
    | error error =>
      rw [applied] at ran
      cases ran
    | ok next =>
      rw [applied] at ran
      rw [step_frame applied below]
      exact ih ran

/-- `p.Turns position used made`: run from the position, the sequence turns the operands `used` on
top of a stack into `made`. In every state on the way the operands below lie where they did, and
what is on top of them does not depend on them. -/
def Turns (p : Postfix) (position : Nat) (used made : List Float) : Prop :=
  (∀ before, before <+: p → ∃ above, ∀ below,
      (run position before (used ++ below)).result = .ok (above ++ below)) ∧
    ∀ below, (run position p (used ++ below)).result = .ok (made ++ below)

/-- Whatever lies below, a run does what it does on the operands it uses. -/
theorem turns_iff : p.Turns position used made ↔ (run position p used).result = .ok made := by
  constructor
  · intro turns
    simpa using turns.2 []
  · intro ran
    refine ⟨?_, run_frame ran⟩
    rintro before ⟨behind, rfl⟩
    rw [result_run_append] at ran
    cases partly : (run position before used).result with
    | error error =>
      rw [partly] at ran
      cases ran
    | ok above => exact ⟨above, run_frame partly⟩

end Postfix

/-! ### The nodes of the grammar -/

variable {position : Nat}

theorem Expression.turns {e : Expression}
    (readable : ∀ text ∈ e.toTree.numbers, (Number.ofText? text).isSome) :
    e.toTree.linearize.Turns position [] [e.value] := by
  rw [Postfix.turns_iff, run_linearize_expression, e.evaluation_eq readable]
  rfl

theorem Term.turns {e : Term}
    (readable : ∀ text ∈ e.toTree.numbers, (Number.ofText? text).isSome) :
    e.toTree.linearize.Turns position [] [e.value] := by
  rw [Postfix.turns_iff, run_linearize_term, e.evaluation_eq readable]
  rfl

theorem Factor.turns {e : Factor}
    (readable : ∀ text ∈ e.toTree.numbers, (Number.ofText? text).isSome) :
    e.toTree.linearize.Turns position [] [e.value] := by
  rw [Postfix.turns_iff, run_linearize_factor, e.evaluation_eq readable]
  rfl

/-- The tail of a sum replaces the operand to its left. -/
theorem SumTail.turns {e : SumTail}
    (readable : ∀ text ∈ e.toTree.numbers, (Number.ofText? text).isSome) (left : Float) :
    e.toTree.linearize.Turns position [left] [e.valueAfter left] := by
  rw [Postfix.turns_iff, run_linearize_sumTail, e.evaluationAfter_eq readable]
  rfl

/-- The tail of a product replaces the operand to its left. -/
theorem ProductTail.turns {e : ProductTail}
    (readable : ∀ text ∈ e.toTree.numbers, (Number.ofText? text).isSome) (left : Float) :
    e.toTree.linearize.Turns position [left] [e.valueAfter left] := by
  rw [Postfix.turns_iff, run_linearize_productTail, e.evaluationAfter_eq readable]
  rfl

/-- Without an operand to its left a tail of a sum stops at its first operator, which finds no more
than the term behind it. -/
theorem SumTail.run_nil {op : Additive} {term : Term} {tail : SumTail}
    (readable : ∀ text ∈ (SumTail.next op term tail).toTree.numbers,
      (Number.ofText? text).isSome) :
    (Postfix.run position (SumTail.next op term tail).toTree.linearize []).result =
      .error (.missingOperand (.operator op.operator)
        (position + term.toTree.linearize.length)) := by
  rw [SumTail.numbers_next, List.forall_mem_append] at readable
  rw [SumTail.linearize_next, Postfix.result_run_append,
    Postfix.turns_iff.mp (Term.turns readable.1)]
  rfl

/-- Without an operand to its left a tail of a product stops at its last symbol, the operator that
combines that operand with the rest of the product. -/
theorem ProductTail.run_nil {op : Multiplicative} {factor : Factor} {tail : ProductTail}
    (readable : ∀ text ∈ (ProductTail.next op factor tail).toTree.numbers,
      (Number.ofText? text).isSome) :
    (Postfix.run position (ProductTail.next op factor tail).toTree.linearize []).result =
      .error (.missingOperand (.operator op.operator)
        (position + factor.toTree.linearize.length + tail.toTree.linearize.length)) := by
  rw [ProductTail.numbers_next, List.forall_mem_append] at readable
  rw [ProductTail.linearize_next, Postfix.result_run_append,
    Postfix.turns_iff.mp (Factor.turns readable.1)]
  show (Postfix.run _ (tail.toTree.linearize ++ _) [factor.value]).result = _
  rw [Postfix.result_run_append, Postfix.turns_iff.mp (ProductTail.turns readable.2 factor.value)]
  rfl

/-- **What the symbols of a node do to a stack.** In a tree in shape whose numbers can be read, the
symbols of an expression, a term or a factor use no operand and put the value on top. Those of a
tail that is not empty use one operand, and stop at an operator without it: a tail of a sum puts in
its place what the operand, combined with the terms from left to right, comes to, and a tail of a
product what the operand and the value of the rest of the product, taken from the right, come to.
An empty tail does nothing. Whatever else lies on the stack stays where it is throughout. -/
theorem linearize_turns {t : Tree}
    (readable : ∀ text ∈ t.numbers, (Number.ofText? text).isSome) (position : Nat) :
    (t.HasShape .expression →
      ∃ e : Expression, e.toTree = t ∧ t.linearize.Turns position [] [e.value]) ∧
    (t.HasShape .term → ∃ e : Term, e.toTree = t ∧ t.linearize.Turns position [] [e.value]) ∧
    (t.HasShape .factor → ∃ e : Factor, e.toTree = t ∧ t.linearize.Turns position [] [e.value]) ∧
    (t.HasShape .sumTail →
      SumTail.empty.toTree = t ∧ t.linearize.Turns position [] [] ∨
      ∃ op term tail, (SumTail.next op term tail).toTree = t ∧
        (∀ left, t.linearize.Turns position [left]
          [tail.valueAfter (op.operator.apply left term.value)]) ∧
        (t.linearize.run position []).result = .error (.missingOperand (.operator op.operator)
          (position + term.toTree.linearize.length))) ∧
    (t.HasShape .productTail →
      ProductTail.empty.toTree = t ∧ t.linearize.Turns position [] [] ∨
      ∃ op factor tail, (ProductTail.next op factor tail).toTree = t ∧
        (∀ left, t.linearize.Turns position [left]
          [op.operator.apply left (tail.valueAfter factor.value)]) ∧
        (t.linearize.run position []).result = .error (.missingOperand (.operator op.operator)
          (position + factor.toTree.linearize.length + tail.toTree.linearize.length))) := by
  refine ⟨?expression, ?term, ?factor, ?sumTail, ?productTail⟩
  case expression =>
    intro shape
    obtain ⟨e, rfl⟩ := shape.isTyped
    exact ⟨e, rfl, e.turns readable⟩
  case term =>
    intro shape
    obtain ⟨e, rfl⟩ := shape.isTyped
    exact ⟨e, rfl, e.turns readable⟩
  case factor =>
    intro shape
    obtain ⟨e, rfl⟩ := shape.isTyped
    exact ⟨e, rfl, e.turns readable⟩
  case sumTail =>
    intro shape
    obtain ⟨e, rfl⟩ := shape.isTyped
    cases e with
    | empty => exact .inl ⟨rfl, Postfix.turns_iff.mpr (by rw [SumTail.linearize_empty]; rfl)⟩
    | next op term tail =>
      exact .inr ⟨op, term, tail, rfl, SumTail.turns readable, SumTail.run_nil readable⟩
  case productTail =>
    intro shape
    obtain ⟨e, rfl⟩ := shape.isTyped
    cases e with
    | empty => exact .inl ⟨rfl, Postfix.turns_iff.mpr (by rw [ProductTail.linearize_empty]; rfl)⟩
    | next op factor tail =>
      exact .inr ⟨op, factor, tail, rfl, ProductTail.turns readable, ProductTail.run_nil readable⟩

/-- The tail `-6*-(3)+2` continues the operand to its left and leaves those below it alone. With no
operand there it stops at its minus. -/
theorem linearize_turns_sum_tail :
    let tail : SumTail :=
      .next .minus
        (.mk (.number "6")
          (.next .times (.negation (.group (.mk (.mk (.number "3") .empty) .empty))) .empty))
        (.next .plus (.mk (.number "2") .empty) .empty)
    let v := Number.valueOf
    (∀ text ∈ tail.toTree.numbers, (Number.ofText? text).isSome) ∧
      tail.toTree.HasShape .sumTail ∧
      (∀ left below, (tail.toTree.linearize.run 4 (left :: below)).result =
        .ok ((left - v "6" * -v "3" + v "2") :: below)) ∧
      (tail.toTree.linearize.run 4 []).result =
        .error (.missingOperand (.operator .sub) 8) := by
  intro tail v
  have readable : ∀ text ∈ tail.toTree.numbers, (Number.ofText? text).isSome := by decide
  refine ⟨readable, tail.hasShape_toTree, ?_⟩
  rcases (linearize_turns readable 4).2.2.2.1 tail.hasShape_toTree with
    ⟨same, -⟩ | ⟨op, term, inner, same, turns, stops⟩
  · exact nomatch (SumTail.toTree_injective same : SumTail.empty = .next _ _ _)
  · obtain ⟨rfl, rfl, rfl⟩ := SumTail.next.inj (SumTail.toTree_injective same)
    exact ⟨fun left => (turns left).2, stops⟩

end Calculator
