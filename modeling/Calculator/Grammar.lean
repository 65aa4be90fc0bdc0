import Calculator.Tree

/-!
The grammar of expressions.

```
Expression ::= Term A
Term       ::= Factor B
A          ::= ("+" | "-") Term A   | nothing
B          ::= ("*" | "/") Factor B | nothing
Factor     ::= "(" Expression ")" | "-" Factor | number
```

`A` is the tail of a sum and `B` the tail of a product. Both tails grow to the right: the tree of
`1-2-3` has the tail `-3` inside the tail `-2-3`. `Expression.toTree` forgets the types and gives
the labelled tree, each node with exactly the children its rule lists.
-/

namespace Calculator

/-- An operator that joins terms. -/
inductive Additive where
  | plus
  | minus
deriving DecidableEq, Repr

/-- An operator that joins factors. -/
inductive Multiplicative where
  | times
  | over
deriving DecidableEq, Repr

/-- The additive operators among all operators. -/
def Additive.operator : Additive → Operator
  | .plus => .add
  | .minus => .sub

/-- The multiplicative operators among all operators. -/
def Multiplicative.operator : Multiplicative → Operator
  | .times => .mul
  | .over => .div

mutual

/-- A sum: its first term and the tail. -/
inductive Expression where
  | mk (term : Term) (tail : SumTail)

/-- A product: its first factor and the tail. -/
inductive Term where
  | mk (factor : Factor) (tail : ProductTail)

/-- What follows a term in a sum. -/
inductive SumTail where
  | empty
  | next (op : Additive) (term : Term) (tail : SumTail)

/-- What follows a factor in a product. -/
inductive ProductTail where
  | empty
  | next (op : Multiplicative) (factor : Factor) (tail : ProductTail)

/-- An operand: a group, a negated operand or a number as written. -/
inductive Factor where
  | group (inner : Expression)
  | negation (operand : Factor)
  | number (text : String)

end

mutual

/-- The labelled tree of an expression. -/
def Expression.toTree : Expression → Tree
  | .mk term tail => .node .expression [term.toTree, tail.toTree]

/-- The labelled tree of a term. -/
def Term.toTree : Term → Tree
  | .mk factor tail => .node .term [factor.toTree, tail.toTree]

/-- The labelled tree of the tail of a sum. -/
def SumTail.toTree : SumTail → Tree
  | .empty => .node .sumTail []
  | .next op term tail =>
    .node .sumTail [.leaf (.operator op.operator), term.toTree, tail.toTree]

/-- The labelled tree of the tail of a product. -/
def ProductTail.toTree : ProductTail → Tree
  | .empty => .node .productTail []
  | .next op factor tail =>
    .node .productTail [.leaf (.operator op.operator), factor.toTree, tail.toTree]

/-- The labelled tree of a factor. -/
def Factor.toTree : Factor → Tree
  | .group inner => .node .factor [.leaf .openParen, inner.toTree, .leaf .closeParen]
  | .negation operand => .node .factor [.leaf .negation, operand.toTree]
  | .number text => .node .factor [.leaf (.number text)]

end

end Calculator
