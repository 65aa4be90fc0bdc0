import Calculator.Tree

/-!
Postfix sequences and the order in which a tree is flattened into one.

A postfix sequence is a list of numbers, binary operators and negations, every operator behind its
operands. A tree is flattened node by node: first the children that are nodes, then the leaves, each
group in its own order. So the operator of a product comes behind the whole rest of the product, and
products group to the right. The tail of a sum is the exception: its term comes first, then its
operator, then the tail behind it, and sums group to the left. Parentheses leave no trace.

* `Tree.visitOrder`: the order of a node's children.
* `Tree.linearize`: the postfix sequence of a tree.
* `Postfix.text`: a sequence as one line.
-/

namespace Calculator

/-- An entry of a postfix sequence. -/
inductive Symbol where
  /-- A number, still as written. -/
  | number (text : String)
  /-- A binary operator, which takes two operands. -/
  | operator (op : Operator)
  /-- A minus that takes one operand. -/
  | negate
deriving DecidableEq, Repr

namespace Symbol

/-- The symbol of a leaf; a parenthesis has none. -/
def ofLeaf? : Leaf → Option Symbol
  | .number text => some (.number text)
  | .operator op => some (.operator op)
  | .negation => some .negate
  | .openParen => none
  | .closeParen => none

/-- A symbol as a word. -/
def text : Symbol → String
  | .number text => text
  | .operator op => op.sign
  | .negate => "neg"

end Symbol

/-- A postfix sequence, first entry first. -/
abbrev Postfix := List Symbol

namespace Postfix

/-- The words of a sequence with single spaces between them. -/
def text (p : Postfix) : String := " ".intercalate (p.map Symbol.text)

/-- Adds a symbol at the end. -/
def push (p : Postfix) (s : Symbol) : Postfix := p ++ [s]

/-- The first symbol and the sequence without it. -/
def pop? : Postfix → Option (Symbol × Postfix)
  | [] => none
  | s :: p => some (s, p)

end Postfix

namespace Tree

/-- The children of a node in the order in which they are flattened. -/
def visitOrder (label : Label) (children : List Tree) : List Tree :=
  match label, children with
  | .sumTail, [op, term, tail] => [term, op, tail]
  | _, children => children.filter isNode ++ children.filter (!·.isNode)

mutual

/-- The postfix sequence of a tree. -/
def linearize : Tree → Postfix
  | .leaf l => (Symbol.ofLeaf? l).toList
  | .node .sumTail [op, term, tail] => term.linearize ++ op.linearize ++ tail.linearize
  | .node _ children => linearizeNodes children ++ linearizeLeaves children

/-- The sequences of those of several trees that are nodes, one behind the other. -/
def linearizeNodes : List Tree → Postfix
  | [] => []
  | .leaf _ :: ts => linearizeNodes ts
  | .node label children :: ts => (Tree.node label children).linearize ++ linearizeNodes ts

/-- The symbols of those of several trees that are leaves. -/
def linearizeLeaves : List Tree → Postfix
  | [] => []
  | .leaf l :: ts => (Symbol.ofLeaf? l).toList ++ linearizeLeaves ts
  | .node _ _ :: ts => linearizeLeaves ts

end

theorem linearize_leaf (l : Leaf) : (Tree.leaf l).linearize = (Symbol.ofLeaf? l).toList := by
  rw [linearize]

theorem linearizeNodes_eq (ts : List Tree) :
    linearizeNodes ts = (ts.filter isNode).flatMap linearize := by
  induction ts with
  | nil => simp [linearizeNodes]
  | cons t ts ih => cases t <;> simp [linearizeNodes, List.filter_cons, isNode, ih]

theorem linearizeLeaves_eq (ts : List Tree) :
    linearizeLeaves ts = (ts.filter (!·.isNode)).flatMap linearize := by
  induction ts with
  | nil => simp [linearizeLeaves]
  | cons t ts ih => cases t <;> simp [linearizeLeaves, isNode, linearize, ih]

/-- Flattening a node flattens its children in their visiting order. -/
theorem linearize_node (label : Label) (children : List Tree) :
    (Tree.node label children).linearize = (visitOrder label children).flatMap linearize := by
  unfold visitOrder
  split
  · simp [linearize]
  · rw [linearize]
    · rw [linearizeNodes_eq, linearizeLeaves_eq, List.flatMap_append]
    · assumption

end Tree

end Calculator
