import Calculator.Postfix
import Calculator.Proofs.Grammar.Shape
import Mathlib.Data.List.Perm.Basic

/-!
The symbols of a tree are those of its leaves.

To visit the children of a node in another order is not to lose any of them or to visit one twice.
So flattening a tree, of whatever shape, makes a sequence of the symbols of its leaves, each as
often as it stands there. The parentheses are the leaves without a symbol.

* `Tree.visitOrder_perm`: the children that are visited are those of the node.
* `Tree.linearize_perm`: the symbols of a tree.
-/

namespace Calculator.Tree

/-- **Visiting the children of a node in order is visiting each of them once.** -/
theorem visitOrder_perm (label : Label) (children : List Tree) :
    (visitOrder label children).Perm children := by
  unfold visitOrder
  split
  · exact .swap _ _ _
  · exact List.filter_append_perm isNode _

mutual

/-- **The symbols of a tree are the symbols of its leaves.** -/
theorem linearize_perm : ∀ t : Tree, t.linearize.Perm (t.leaves.filterMap Symbol.ofLeaf?)
  | .leaf l => by
    rw [linearize_leaf, leaves]
    cases hSymbol : Symbol.ofLeaf? l <;> simp [hSymbol]
  | .node label children => by
    rw [linearize_node, leaves]
    exact ((visitOrder_perm label children).flatMap_right linearize).trans
      (flatMap_linearize_perm children)

theorem flatMap_linearize_perm : ∀ ts : List Tree,
    (ts.flatMap linearize).Perm ((leavesOf ts).filterMap Symbol.ofLeaf?)
  | [] => .refl _
  | t :: ts => by
    rw [List.flatMap_cons, leavesOf, List.filterMap_append]
    exact (linearize_perm t).append (flatMap_linearize_perm ts)

end

/-- The numbers among the symbols of a tree are its numbers. -/
theorem number_mem_linearize {t : Tree} {text : String} :
    Symbol.number text ∈ t.linearize ↔ text ∈ t.numbers := by
  have sameNumber (leaf : Leaf) :
      Symbol.ofLeaf? leaf = some (.number text) ↔ leaf.number? = some text := by
    cases leaf <;> simp [Symbol.ofLeaf?, Leaf.number?]
  rw [t.linearize_perm.mem_iff, numbers, List.mem_filterMap, List.mem_filterMap]
  simp only [sameNumber]

end Calculator.Tree
