import Calculator.Text.Field
import Calculator.Text.Quoted

/-!
Labelled trees.

A tree is a leaf or a node with a label and children. The leaves are the marks of an expression:
numbers as written, operators, the minus of a negation and the parentheses of a group. Nothing here
asks that a node has the children its label calls for; `Calculator.Grammar` holds the trees that do.

The outline of a tree has a line for each node and leaf, parents before children, indented by two
spaces a level. Leaves are quoted, so no text of a leaf can look like a label or break its line. The
blanks before a line are a field, and a tree with a line that stands too deep for it has no
outline.
-/

namespace Calculator

/-- The rule of the grammar that a node belongs to. -/
inductive Label where
  | expression
  | term
  | sumTail
  | productTail
  | factor
deriving DecidableEq, Repr

/-- The name of a rule. The two tails go by single letters. -/
def Label.name : Label → String
  | .expression => "Expression"
  | .term => "Term"
  | .sumTail => "A"
  | .productTail => "B"
  | .factor => "Factor"

/-- A binary operator. -/
inductive Operator where
  | add
  | sub
  | mul
  | div
deriving DecidableEq, Repr

/-- The sign of an operator. -/
def Operator.sign : Operator → String
  | .add => "+"
  | .sub => "-"
  | .mul => "*"
  | .div => "/"

/-- A mark of an expression. -/
inductive Leaf where
  /-- A number, as written. -/
  | number (text : String)
  | operator (op : Operator)
  /-- The minus before an operand. -/
  | negation
  | openParen
  | closeParen
deriving DecidableEq, Repr

/-- The text of a leaf, as it stands in the input. -/
def Leaf.text : Leaf → String
  | .number text => text
  | .operator op => op.sign
  | .negation => "-"
  | .openParen => "("
  | .closeParen => ")"

/-- A tree whose nodes have labels and whose leaves are marks. -/
inductive Tree where
  | leaf (leaf : Leaf)
  | node (label : Label) (children : List Tree)
deriving Repr

namespace Tree

/-- Whether the tree is more than a leaf. -/
def isNode : Tree → Bool
  | .leaf _ => false
  | .node _ _ => true

@[simp] theorem isNode_leaf (l : Leaf) : (Tree.leaf l).isNode = false := rfl

@[simp] theorem isNode_node (label : Label) (children : List Tree) :
    (Tree.node label children).isNode = true := rfl

/-- The children of the root. -/
def children : Tree → List Tree
  | .leaf _ => []
  | .node _ children => children

/-- The label of the root, which a leaf has not. -/
def label? : Tree → Option Label
  | .leaf _ => none
  | .node label _ => some label

/-- The children of the root that are nodes, in order. -/
def subtrees (t : Tree) : List Tree := t.children.filter isNode

mutual

/-- The leaves, from left to right. -/
def leaves : Tree → List Leaf
  | .leaf l => [l]
  | .node _ children => leavesOf children

/-- The leaves of several trees, from left to right. -/
def leavesOf : List Tree → List Leaf
  | [] => []
  | t :: ts => t.leaves ++ leavesOf ts

end

mutual

/-- The number of nodes; leaves do not count. -/
def nodeCount : Tree → Nat
  | .leaf _ => 0
  | .node _ children => 1 + nodeCountOf children

/-- The number of nodes of several trees. -/
def nodeCountOf : List Tree → Nat
  | [] => 0
  | t :: ts => t.nodeCount + nodeCountOf ts

end

/-- The blanks before a line that stands `depth` levels down. -/
def indent (depth : Nat) : Nat := 2 * depth

mutual

/-- The lines of the outline of a tree that stands `depth` levels down, each with its own depth and
not indented yet, and the lines `rest` behind them. -/
def outlineLines (depth : Nat) (rest : List (Nat × String)) : Tree → List (Nat × String)
  | .leaf l => (depth, Text.quote l.text) :: rest
  | .node label children => (depth, label.name) :: outlineLinesOf (depth + 1) rest children

/-- The lines of the outlines of several trees, one after the other. -/
def outlineLinesOf (depth : Nat) (rest : List (Nat × String)) : List Tree → List (Nat × String)
  | [] => rest
  | t :: ts => outlineLines depth (outlineLinesOf depth rest ts) t

end

/-- Every line of the outline can be indented. -/
def Indentable (t : Tree) : Prop := ∀ line ∈ t.outlineLines 0 [], indent line.1 ≤ Text.widest

instance (t : Tree) : Decidable t.Indentable :=
  inferInstanceAs (Decidable (∀ line ∈ t.outlineLines 0 [], indent line.1 ≤ Text.widest))

/-- A line of the outline, indented and ended by a line feed. -/
def outlineLine (line : Nat × String) : String :=
  String.ofList (List.replicate (indent line.1) ' ') ++ line.2 ++ "\n"

/-- The outline, if every line of it can be indented. -/
def outline? (t : Tree) : Option String :=
  if t.Indentable then some (String.join ((t.outlineLines 0 []).map outlineLine)) else none

end Tree

end Calculator
