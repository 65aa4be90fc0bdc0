import Calculator.Proofs.Grammar.RoundTrip
import Calculator.Proofs.Postfix.Leaves

/-!
What flattening leaves in order.

The children of a node are visited nodes first, then leaves, and neither group changes its own
order. Only a tail of a sum with three children goes another way: the second comes first, then the
first and the third. Either way a subtree is done with before the next child begins, so its symbols
stand together, whatever the shape of the tree around it.

In the tree of an expression the numbers keep their places among each other as well: a number is the
only child of its factor, and no two nodes change places.

* `Tree.NodesFirst`, `Tree.visitOrder_nodesFirst`: the order in which children are visited.
* `Tree.Holds.exists_block`: the symbols of a subtree stand together.
* `Expression.filterMap_linearize` and its like: the numbers of a sequence are those of the tree, in
  the same order.
* `linearize_keeps_leaves`: all of this, and which symbols a tree has.
-/

namespace Calculator

/-! ### The order of the children -/

namespace Tree

/-- Some trees in an order that has the nodes before the leaves, each in the order in which they
stand among the children. -/
structure NodesFirst (order children : List Tree) : Prop where
  nodes : order.filter isNode = children.filter isNode
  leaves : order.filter (!·.isNode) = children.filter (!·.isNode)
  before : order.Pairwise fun t u => u.isNode → t.isNode

/-- Nodes before leaves is the order of visiting, but for a tail of a sum with three children. -/
theorem visitOrder_nodesFirst {label : Label} {children : List Tree}
    (other : label = .sumTail → children.length ≠ 3) :
    NodesFirst (visitOrder label children) children := by
  unfold visitOrder
  split
  · exact absurd rfl (other rfl)
  · refine ⟨by simp, by simp, ?_⟩
    rw [List.pairwise_append]
    refine ⟨?nodes, ?leaves, ?across⟩
    case nodes =>
      refine List.pairwise_of_forall_mem_list fun t member u _ _ => ?_
      exact (List.mem_filter.mp member).2
    case leaves =>
      refine List.pairwise_of_forall_mem_list fun t _ u member node => ?_
      have leaf := (List.mem_filter.mp member).2
      rw [node] at leaf
      cases leaf
    case across =>
      intro t member u _ _
      exact (List.mem_filter.mp member).2

end Tree

/-! ### Subtrees stand together -/

/-- Whether a leaf is a parenthesis. -/
def Leaf.isParen : Leaf → Bool
  | .openParen => true
  | .closeParen => true
  | _ => false

/-- The symbols of some leaves: the leaves without a symbol are the parentheses. -/
def Leaf.symbols (leaves : List Leaf) : Postfix := leaves.filterMap Symbol.ofLeaf?

/-- Every leaf that is no parenthesis has a symbol. -/
theorem Leaf.map_symbols (leaves : List Leaf) :
    (symbols leaves).map some = (leaves.filter (!·.isParen)).map Symbol.ofLeaf? := by
  induction leaves with
  | nil => rfl
  | cons leaf leaves ih =>
    rw [symbols] at ih ⊢
    cases leaf <;> simp [Symbol.ofLeaf?, Leaf.isParen, List.filterMap_cons, ih]

namespace Tree

/-- **The symbols of a subtree stand together**, and the symbols around them are those of the leaves
around the subtree. -/
theorem Holds.exists_block {t sub : Tree} {left right : List Leaf} (h : t.Holds left sub right) :
    ∃ before after, t.linearize = before ++ sub.linearize ++ after ∧
      (before ++ after).Perm (Leaf.symbols (left ++ right)) := by
  induction h with
  | root t => exact ⟨[], [], by simp, .refl _⟩
  | @child label earlier later t sub left right _ ih =>
    obtain ⟨before, after, block, around⟩ := ih
    -- Among the children as visited, those before and behind are the same in another order.
    have visited := visitOrder_perm label (earlier ++ t :: later)
    obtain ⟨first, last, cut⟩ := List.append_of_mem
      (visited.mem_iff.mpr (List.mem_append_right earlier List.mem_cons_self))
    rw [cut] at visited
    have others : (first ++ last).Perm (earlier ++ later) :=
      (List.perm_middle.symm.trans (visited.trans List.perm_middle)).cons_inv
    refine ⟨first.flatMap linearize ++ before, after ++ last.flatMap linearize, ?_, ?_⟩
    · rw [linearize_node, cut, List.flatMap_append, List.flatMap_cons, block]
      simp only [List.append_assoc]
    · have beside := (others.flatMap_right linearize).trans (flatMap_linearize_perm _)
      rw [leavesOf_append] at beside
      rw [List.perm_iff_count] at around beside ⊢
      intro s
      have aroundAt := around s
      have besideAt := beside s
      simp only [Leaf.symbols, List.flatMap_append, List.filterMap_append, List.count_append]
        at aroundAt besideAt ⊢
      omega

end Tree

/-! ### Numbers -/

/-- The text of a number; operators and negations have none. -/
def Symbol.number? : Symbol → Option String
  | .number text => some text
  | _ => none

mutual

/-- The numbers of an expression are flattened in order. -/
theorem Expression.filterMap_linearize : ∀ e : Expression,
    e.toTree.linearize.filterMap Symbol.number? = e.toTree.numbers
  | .mk term tail => by
    simp [term.filterMap_linearize, tail.filterMap_linearize]

/-- The numbers of a term are flattened in order. -/
theorem Term.filterMap_linearize : ∀ e : Term,
    e.toTree.linearize.filterMap Symbol.number? = e.toTree.numbers
  | .mk factor tail => by
    simp [factor.filterMap_linearize, tail.filterMap_linearize]

/-- The numbers of the tail of a sum are flattened in order. -/
theorem SumTail.filterMap_linearize : ∀ e : SumTail,
    e.toTree.linearize.filterMap Symbol.number? = e.toTree.numbers
  | .empty => by simp
  | .next op term tail => by
    simp [List.filterMap_cons, Symbol.number?, term.filterMap_linearize, tail.filterMap_linearize]

/-- The numbers of the tail of a product are flattened in order. -/
theorem ProductTail.filterMap_linearize : ∀ e : ProductTail,
    e.toTree.linearize.filterMap Symbol.number? = e.toTree.numbers
  | .empty => by simp
  | .next op factor tail => by
    simp [Symbol.number?, factor.filterMap_linearize, tail.filterMap_linearize]

/-- The numbers of a factor are flattened in order. -/
theorem Factor.filterMap_linearize : ∀ e : Factor,
    e.toTree.linearize.filterMap Symbol.number? = e.toTree.numbers
  | .group inner => by simp [inner.filterMap_linearize]
  | .negation operand => by simp [Symbol.number?, operand.filterMap_linearize]
  | .number text => by simp [Symbol.number?]

end

/-- The text of a token that is a number; other tokens have none. -/
def Token.number? (token : Token) : Option String :=
  if token.kind = .number then some token.text else none

/-- A token is a number if the leaf that it spells is one, and has its text. -/
theorem Token.Spells.number?_eq {token : Token} {leaf : Leaf} (spells : token.Spells leaf) :
    token.number? = leaf.number? := by
  obtain ⟨kind, text⟩ := spells
  unfold Token.number?
  split
  · next number =>
    obtain ⟨written, rfl⟩ := Leaf.exists_number (kind.symm.trans number)
    rw [text written rfl]
    rfl
  · next other =>
    rw [kind] at other
    cases leaf with
    | number written => exact absurd rfl other
    | _ => rfl

/-- Tokens have the numbers of the leaves that they spell, in order. -/
theorem filterMap_number?_of_spells {tokens : List Token} {leaves : List Leaf}
    (h : List.Forall₂ Token.Spells tokens leaves) :
    tokens.filterMap Token.number? = leaves.filterMap Leaf.number? := by
  induction h with
  | nil => rfl
  | cons spells _ ih => rw [List.filterMap_cons, List.filterMap_cons, spells.number?_eq, ih]

/-! ### What flattening keeps -/

/-- **Flattening loses nothing, invents nothing and moves nothing but what it has to.** Of any
labels and children, every child of a node is visited once: the nodes first and then the leaves,
each group in its own order, or, in a tail of a sum with three children, the second, the first and
the third. So the symbols of any tree are those of its leaves other than parentheses, each as often
as it stands there; and wherever a tree holds a subtree, the symbols of that stand together, with
those of all other leaves around them. In the sequence of tokens that parse, moreover, the numbers
are the numbers among the tokens, in their order. -/
theorem linearize_keeps_leaves :
    (∀ (label : Label) (children : List Tree),
      (Tree.visitOrder label children).Perm children ∧
        ((label = .sumTail → children.length ≠ 3) →
          Tree.NodesFirst (Tree.visitOrder label children) children)) ∧
    (∀ first second third : Tree,
      Tree.visitOrder .sumTail [first, second, third] = [second, first, third]) ∧
    (∀ t : Tree,
      (t.linearize.map some).Perm ((t.leaves.filter (!·.isParen)).map Symbol.ofLeaf?) ∧
        ∀ left sub right, t.Holds left sub right →
          ∃ before after, t.linearize = before ++ sub.linearize ++ after ∧
            (before ++ after).Perm (Leaf.symbols (left ++ right))) ∧
    ∀ tokens e, parseTokens tokens = .ok e →
      e.toTree.linearize.filterMap Symbol.number? = tokens.filterMap Token.number? := by
  refine ⟨?children, fun _ _ _ => rfl, ?symbols, ?numbers⟩
  case children =>
    intro label children
    exact ⟨Tree.visitOrder_perm label children, Tree.visitOrder_nodesFirst⟩
  case symbols =>
    intro t
    refine ⟨?_, fun left sub right holds => holds.exists_block⟩
    rw [← Leaf.map_symbols]
    exact t.linearize_perm.map some
  case numbers =>
    intro tokens e parsed
    rw [e.filterMap_linearize, filterMap_number?_of_spells (spells_of_parseTokens parsed)]
    rfl

/-- A tail of a sum that the grammar does not know, with four children; and the tokens of `8-(2*3)`,
where the symbols of the group stand together before the minus. -/
theorem linearize_keeps_leaves_in_group :
    let odd : List Tree :=
      [.leaf .negation, .node .factor [], .leaf .openParen, .node .term [.leaf (.number "5")]]
    let tokens : List Token :=
      [⟨.number, "8", ⟨0, 1⟩⟩, ⟨.minus, "-", ⟨1, 1⟩⟩, ⟨.openParen, "(", ⟨2, 1⟩⟩,
        ⟨.number, "2", ⟨3, 1⟩⟩, ⟨.star, "*", ⟨4, 1⟩⟩, ⟨.number, "3", ⟨5, 1⟩⟩,
        ⟨.closeParen, ")", ⟨6, 1⟩⟩]
    let product : Term := .mk (.number "2") (.next .times (.number "3") .empty)
    let group : Factor := .group (.mk product .empty)
    let e : Expression :=
      .mk (.mk (.number "8") .empty) (.next .minus (.mk group .empty) .empty)
    Tree.NodesFirst (Tree.visitOrder .sumTail odd) odd ∧ parseTokens tokens = .ok e ∧
      e.toTree.linearize.filterMap Symbol.number? = ["8", "2", "3"] ∧
      ∃ before after, e.toTree.linearize = before ++ group.toTree.linearize ++ after ∧
        (before ++ after).Perm [.number "8", .operator .sub] := by
  intro odd tokens product group e
  have four : odd.length ≠ 3 := by decide
  have parsed : parseTokens tokens = .ok e := parseTokens_of_spells (by decide)
  have holds : e.toTree.Holds [.number "8", .operator .sub] group.toTree [] :=
    .child .expression [(Term.mk (.number "8") .empty).toTree] []
      (.child .sumTail [.leaf (.operator .sub)] [SumTail.empty.toTree]
        (.child .term [] [ProductTail.empty.toTree] (.root group.toTree)))
  exact ⟨(linearize_keeps_leaves.1 .sumTail odd).2 fun _ => four, parsed,
    linearize_keeps_leaves.2.2.2 tokens e parsed,
    (linearize_keeps_leaves.2.2.1 e.toTree).2 _ _ _ holds⟩

end Calculator
