import Calculator.Grammar
import Calculator.Postfix

/-!
Trees in the shape of the grammar.

`Tree.HasShape` is the table of the rules, read as a predicate on labelled trees: every node has
the children that one alternative of its rule lists, in that order and in shape themselves. Nothing
in it mentions the typed expressions, which is why it can say what their trees are.

* `Tree.hasShape_iff`: the trees in the shape of a rule are exactly those that `toTree` gives for
  the typed expressions of that rule.
* `Expression.toTree_injective`: no two expressions have the same tree.
* `Expression.leaves_mk` and its like: the leaves of a tree, by the leaves of its parts.
* `Expression.linearize_mk` and its like: the postfix sequence of a tree, by those of its parts.
* `Tree.numbers`: the texts of the numbers of a tree, from left to right.
-/

namespace Calculator

/-! ### The shape of the rules -/

/-- The trees that the rules allow under a label. The operators of a sum occur in a `sumTail` only
and those of a product in a `productTail` only; the minus of a negation occurs in a `factor`. -/
inductive Tree.HasShape : Label → Tree → Prop where
  | expression {term tail : Tree} :
      HasShape .term term → HasShape .sumTail tail →
        HasShape .expression (.node .expression [term, tail])
  | term {factor tail : Tree} :
      HasShape .factor factor → HasShape .productTail tail →
        HasShape .term (.node .term [factor, tail])
  | sumEnd : HasShape .sumTail (.node .sumTail [])
  | sum {term tail : Tree} (op : Additive) :
      HasShape .term term → HasShape .sumTail tail →
        HasShape .sumTail (.node .sumTail [.leaf (.operator op.operator), term, tail])
  | productEnd : HasShape .productTail (.node .productTail [])
  | product {factor tail : Tree} (op : Multiplicative) :
      HasShape .factor factor → HasShape .productTail tail →
        HasShape .productTail (.node .productTail [.leaf (.operator op.operator), factor, tail])
  | group {inner : Tree} :
      HasShape .expression inner →
        HasShape .factor (.node .factor [.leaf .openParen, inner, .leaf .closeParen])
  | negation {operand : Tree} :
      HasShape .factor operand → HasShape .factor (.node .factor [.leaf .negation, operand])
  | number (text : String) : HasShape .factor (.node .factor [.leaf (.number text)])

/-- `t` is the tree of a typed expression of the rule that the label names. -/
def Tree.IsTyped : Label → Tree → Prop
  | .expression, t => ∃ e : Expression, e.toTree = t
  | .term, t => ∃ e : Term, e.toTree = t
  | .sumTail, t => ∃ e : SumTail, e.toTree = t
  | .productTail, t => ∃ e : ProductTail, e.toTree = t
  | .factor, t => ∃ e : Factor, e.toTree = t

mutual

/-- The tree of an expression has its shape. -/
theorem Expression.hasShape_toTree : ∀ e : Expression, e.toTree.HasShape .expression
  | .mk term tail => .expression term.hasShape_toTree tail.hasShape_toTree

/-- The tree of a term has its shape. -/
theorem Term.hasShape_toTree : ∀ e : Term, e.toTree.HasShape .term
  | .mk factor tail => .term factor.hasShape_toTree tail.hasShape_toTree

/-- The tree of the tail of a sum has its shape. -/
theorem SumTail.hasShape_toTree : ∀ e : SumTail, e.toTree.HasShape .sumTail
  | .empty => .sumEnd
  | .next op term tail => .sum op term.hasShape_toTree tail.hasShape_toTree

/-- The tree of the tail of a product has its shape. -/
theorem ProductTail.hasShape_toTree : ∀ e : ProductTail, e.toTree.HasShape .productTail
  | .empty => .productEnd
  | .next op factor tail => .product op factor.hasShape_toTree tail.hasShape_toTree

/-- The tree of a factor has its shape. -/
theorem Factor.hasShape_toTree : ∀ e : Factor, e.toTree.HasShape .factor
  | .group inner => .group inner.hasShape_toTree
  | .negation operand => .negation operand.hasShape_toTree
  | .number text => .number text

end

/-- Every tree in shape is the tree of a typed expression. -/
theorem Tree.HasShape.isTyped {label : Label} {t : Tree} (h : t.HasShape label) :
    t.IsTyped label := by
  induction h with
  | expression _ _ ihTerm ihTail =>
    obtain ⟨term, rfl⟩ := ihTerm
    obtain ⟨tail, rfl⟩ := ihTail
    exact ⟨.mk term tail, rfl⟩
  | term _ _ ihFactor ihTail =>
    obtain ⟨factor, rfl⟩ := ihFactor
    obtain ⟨tail, rfl⟩ := ihTail
    exact ⟨.mk factor tail, rfl⟩
  | sumEnd => exact ⟨.empty, rfl⟩
  | sum op _ _ ihTerm ihTail =>
    obtain ⟨term, rfl⟩ := ihTerm
    obtain ⟨tail, rfl⟩ := ihTail
    exact ⟨.next op term tail, rfl⟩
  | productEnd => exact ⟨.empty, rfl⟩
  | product op _ _ ihFactor ihTail =>
    obtain ⟨factor, rfl⟩ := ihFactor
    obtain ⟨tail, rfl⟩ := ihTail
    exact ⟨.next op factor tail, rfl⟩
  | group _ ih =>
    obtain ⟨inner, rfl⟩ := ih
    exact ⟨.group inner, rfl⟩
  | negation _ ih =>
    obtain ⟨operand, rfl⟩ := ih
    exact ⟨.negation operand, rfl⟩
  | number text => exact ⟨.number text, rfl⟩

/-- **The typed grammar and the table of rules agree.** A labelled tree has the shape of a rule
exactly when it is the tree of a typed expression of that rule. -/
theorem Tree.hasShape_iff {label : Label} {t : Tree} : t.HasShape label ↔ t.IsTyped label := by
  constructor
  · exact HasShape.isTyped
  · intro h
    cases label <;> obtain ⟨e, rfl⟩ := h
    · exact e.hasShape_toTree
    · exact e.hasShape_toTree
    · exact e.hasShape_toTree
    · exact e.hasShape_toTree
    · exact e.hasShape_toTree

/-! ### One expression for a tree -/

theorem Additive.operator_injective {op op' : Additive} (h : op.operator = op'.operator) :
    op = op' := by
  cases op <;> cases op' <;> simp_all [Additive.operator]

theorem Multiplicative.operator_injective {op op' : Multiplicative}
    (h : op.operator = op'.operator) : op = op' := by
  cases op <;> cases op' <;> simp_all [Multiplicative.operator]

mutual

theorem Expression.toTree_injective : ∀ {e e' : Expression}, e.toTree = e'.toTree → e = e'
  | .mk term tail, .mk term' tail', h => by
    simp only [Expression.toTree, Tree.node.injEq, List.cons.injEq] at h
    obtain ⟨-, hTerm, hTail, -⟩ := h
    rw [Term.toTree_injective hTerm, SumTail.toTree_injective hTail]

theorem Term.toTree_injective : ∀ {e e' : Term}, e.toTree = e'.toTree → e = e'
  | .mk factor tail, .mk factor' tail', h => by
    simp only [Term.toTree, Tree.node.injEq, List.cons.injEq] at h
    obtain ⟨-, hFactor, hTail, -⟩ := h
    rw [Factor.toTree_injective hFactor, ProductTail.toTree_injective hTail]

theorem SumTail.toTree_injective : ∀ {e e' : SumTail}, e.toTree = e'.toTree → e = e'
  | .empty, .empty, _ => rfl
  | .empty, .next .., h => by simp [SumTail.toTree] at h
  | .next .., .empty, h => by simp [SumTail.toTree] at h
  | .next op term tail, .next op' term' tail', h => by
    simp only [SumTail.toTree, Tree.node.injEq, List.cons.injEq, Tree.leaf.injEq,
      Leaf.operator.injEq] at h
    obtain ⟨-, hOp, hTerm, hTail, -⟩ := h
    rw [Additive.operator_injective hOp, Term.toTree_injective hTerm,
      SumTail.toTree_injective hTail]

theorem ProductTail.toTree_injective : ∀ {e e' : ProductTail}, e.toTree = e'.toTree → e = e'
  | .empty, .empty, _ => rfl
  | .empty, .next .., h => by simp [ProductTail.toTree] at h
  | .next .., .empty, h => by simp [ProductTail.toTree] at h
  | .next op factor tail, .next op' factor' tail', h => by
    simp only [ProductTail.toTree, Tree.node.injEq, List.cons.injEq, Tree.leaf.injEq,
      Leaf.operator.injEq] at h
    obtain ⟨-, hOp, hFactor, hTail, -⟩ := h
    rw [Multiplicative.operator_injective hOp, Factor.toTree_injective hFactor,
      ProductTail.toTree_injective hTail]

theorem Factor.toTree_injective : ∀ {e e' : Factor}, e.toTree = e'.toTree → e = e'
  | .group inner, .group inner', h => by
    simp only [Factor.toTree, Tree.node.injEq, List.cons.injEq] at h
    obtain ⟨-, -, hInner, -⟩ := h
    rw [Expression.toTree_injective hInner]
  | .negation operand, .negation operand', h => by
    simp only [Factor.toTree, Tree.node.injEq, List.cons.injEq] at h
    obtain ⟨-, -, hOperand, -⟩ := h
    rw [Factor.toTree_injective hOperand]
  | .number text, .number text', h => by
    simpa [Factor.toTree] using h
  | .group _, .negation _, h | .group _, .number _, h | .negation _, .group _, h
  | .negation _, .number _, h | .number _, .group _, h | .number _, .negation _, h => by
    simp [Factor.toTree] at h

end

/-! ### Leaves -/

@[simp] theorem Expression.leaves_mk (term : Term) (tail : SumTail) :
    (Expression.mk term tail).toTree.leaves = term.toTree.leaves ++ tail.toTree.leaves := by
  simp [Expression.toTree, Tree.leaves, Tree.leavesOf]

@[simp] theorem Term.leaves_mk (factor : Factor) (tail : ProductTail) :
    (Term.mk factor tail).toTree.leaves = factor.toTree.leaves ++ tail.toTree.leaves := by
  simp [Term.toTree, Tree.leaves, Tree.leavesOf]

@[simp] theorem SumTail.leaves_empty : SumTail.empty.toTree.leaves = [] := by
  simp [SumTail.toTree, Tree.leaves, Tree.leavesOf]

@[simp] theorem SumTail.leaves_next (op : Additive) (term : Term) (tail : SumTail) :
    (SumTail.next op term tail).toTree.leaves =
      .operator op.operator :: (term.toTree.leaves ++ tail.toTree.leaves) := by
  simp [SumTail.toTree, Tree.leaves, Tree.leavesOf]

@[simp] theorem ProductTail.leaves_empty : ProductTail.empty.toTree.leaves = [] := by
  simp [ProductTail.toTree, Tree.leaves, Tree.leavesOf]

@[simp] theorem ProductTail.leaves_next (op : Multiplicative) (factor : Factor)
    (tail : ProductTail) :
    (ProductTail.next op factor tail).toTree.leaves =
      .operator op.operator :: (factor.toTree.leaves ++ tail.toTree.leaves) := by
  simp [ProductTail.toTree, Tree.leaves, Tree.leavesOf]

@[simp] theorem Factor.leaves_group (inner : Expression) :
    (Factor.group inner).toTree.leaves = .openParen :: (inner.toTree.leaves ++ [.closeParen]) := by
  simp [Factor.toTree, Tree.leaves, Tree.leavesOf]

@[simp] theorem Factor.leaves_negation (operand : Factor) :
    (Factor.negation operand).toTree.leaves = .negation :: operand.toTree.leaves := by
  simp [Factor.toTree, Tree.leaves, Tree.leavesOf]

@[simp] theorem Factor.leaves_number (text : String) :
    (Factor.number text).toTree.leaves = [.number text] := by
  simp [Factor.toTree, Tree.leaves, Tree.leavesOf]

/-! ### Postfix sequences

The tree of a typed expression is a node, so flattening puts it before the leaves beside it. Only
the tail of a sum has its operator between its parts. -/

@[simp] theorem Expression.isNode_toTree (e : Expression) : e.toTree.isNode = true := by
  cases e; rfl

@[simp] theorem Term.isNode_toTree (e : Term) : e.toTree.isNode = true := by
  cases e; rfl

@[simp] theorem SumTail.isNode_toTree (e : SumTail) : e.toTree.isNode = true := by
  cases e <;> rfl

@[simp] theorem ProductTail.isNode_toTree (e : ProductTail) : e.toTree.isNode = true := by
  cases e <;> rfl

@[simp] theorem Factor.isNode_toTree (e : Factor) : e.toTree.isNode = true := by
  cases e <;> rfl

@[simp] theorem Expression.linearize_mk (term : Term) (tail : SumTail) :
    (Expression.mk term tail).toTree.linearize =
      term.toTree.linearize ++ tail.toTree.linearize := by
  simp [Expression.toTree, Tree.linearize_node, Tree.visitOrder]

@[simp] theorem Term.linearize_mk (factor : Factor) (tail : ProductTail) :
    (Term.mk factor tail).toTree.linearize =
      factor.toTree.linearize ++ tail.toTree.linearize := by
  simp [Term.toTree, Tree.linearize_node, Tree.visitOrder]

@[simp] theorem SumTail.linearize_empty : SumTail.empty.toTree.linearize = [] := by
  simp [SumTail.toTree, Tree.linearize_node, Tree.visitOrder]

@[simp] theorem SumTail.linearize_next (op : Additive) (term : Term) (tail : SumTail) :
    (SumTail.next op term tail).toTree.linearize =
      term.toTree.linearize ++ .operator op.operator :: tail.toTree.linearize := by
  simp [SumTail.toTree, Tree.linearize_node, Tree.visitOrder, Tree.linearize_leaf,
    Symbol.ofLeaf?]

@[simp] theorem ProductTail.linearize_empty : ProductTail.empty.toTree.linearize = [] := by
  simp [ProductTail.toTree, Tree.linearize_node, Tree.visitOrder]

@[simp] theorem ProductTail.linearize_next (op : Multiplicative) (factor : Factor)
    (tail : ProductTail) :
    (ProductTail.next op factor tail).toTree.linearize =
      factor.toTree.linearize ++ (tail.toTree.linearize ++ [.operator op.operator]) := by
  simp [ProductTail.toTree, Tree.linearize_node, Tree.visitOrder, Tree.linearize_leaf,
    Symbol.ofLeaf?]

@[simp] theorem Factor.linearize_group (inner : Expression) :
    (Factor.group inner).toTree.linearize = inner.toTree.linearize := by
  simp [Factor.toTree, Tree.linearize_node, Tree.visitOrder, Tree.linearize_leaf,
    Symbol.ofLeaf?]

@[simp] theorem Factor.linearize_negation (operand : Factor) :
    (Factor.negation operand).toTree.linearize = operand.toTree.linearize ++ [.negate] := by
  simp [Factor.toTree, Tree.linearize_node, Tree.visitOrder, Tree.linearize_leaf,
    Symbol.ofLeaf?]

@[simp] theorem Factor.linearize_number (text : String) :
    (Factor.number text).toTree.linearize = [.number text] := by
  simp [Factor.toTree, Tree.linearize_node, Tree.visitOrder, Tree.linearize_leaf,
    Symbol.ofLeaf?]

/-! ### Numbers -/

/-- The text of a number; other leaves have none. -/
def Leaf.number? : Leaf → Option String
  | .number text => some text
  | _ => none

/-- The numbers of a tree as written, from left to right. -/
def Tree.numbers (t : Tree) : List String := t.leaves.filterMap Leaf.number?

@[simp] theorem Expression.numbers_mk (term : Term) (tail : SumTail) :
    (Expression.mk term tail).toTree.numbers = term.toTree.numbers ++ tail.toTree.numbers := by
  simp [Tree.numbers]

@[simp] theorem Term.numbers_mk (factor : Factor) (tail : ProductTail) :
    (Term.mk factor tail).toTree.numbers = factor.toTree.numbers ++ tail.toTree.numbers := by
  simp [Tree.numbers]

@[simp] theorem SumTail.numbers_empty : SumTail.empty.toTree.numbers = [] := by
  simp [Tree.numbers]

@[simp] theorem SumTail.numbers_next (op : Additive) (term : Term) (tail : SumTail) :
    (SumTail.next op term tail).toTree.numbers = term.toTree.numbers ++ tail.toTree.numbers := by
  simp [Tree.numbers, List.filterMap_cons, Leaf.number?]

@[simp] theorem ProductTail.numbers_empty : ProductTail.empty.toTree.numbers = [] := by
  simp [Tree.numbers]

@[simp] theorem ProductTail.numbers_next (op : Multiplicative) (factor : Factor)
    (tail : ProductTail) :
    (ProductTail.next op factor tail).toTree.numbers =
      factor.toTree.numbers ++ tail.toTree.numbers := by
  simp [Tree.numbers, List.filterMap_cons, Leaf.number?]

@[simp] theorem Factor.numbers_group (inner : Expression) :
    (Factor.group inner).toTree.numbers = inner.toTree.numbers := by
  simp [Tree.numbers, List.filterMap_cons, Leaf.number?]

@[simp] theorem Factor.numbers_negation (operand : Factor) :
    (Factor.negation operand).toTree.numbers = operand.toTree.numbers := by
  simp [Tree.numbers, List.filterMap_cons, Leaf.number?]

@[simp] theorem Factor.numbers_number (text : String) :
    (Factor.number text).toTree.numbers = [text] := by
  simp [Tree.numbers, Leaf.number?]

end Calculator
