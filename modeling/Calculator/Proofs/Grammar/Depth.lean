import Calculator.Proofs.Grammar.Calls
import Calculator.Proofs.Grammar.RoundTrip
import Calculator.Proofs.Postfix.Leaves
import Mathlib.Order.Bounds.Basic

/-!
How deep the parser and the functions on trees recurse.

Each rule that runs makes one node, and the rules it calls make those children of the node that are
nodes. So the calls that are nested in a run are as many as the tree is high, and a function that
works through the tree by calling itself on these children comes to have as many calls under way.

How high a tree is depends on two things. Parentheses and minus signs nest, and so do the tails of a
sum and of a product: the tail behind an operator holds the tail behind the next one. A chain of
operators is as deep as it is long, without any nesting.

* `Tree.IsDepth`, `Tree.isDepth_height`: a function that works through a tree is as deep as the tree
  is high, in whatever order it takes the children.
* `Cursor.IsDepth`, `Cursor.rules_depth`: so is the run of a rule that succeeds with that tree.
* `Expression.height_le`: a bound on the height by the nesting and the longest chain.
* `Expression.nesting_lt_height`, `Expression.longestChain_lt_height`: neither can be left out.
* `parseTokens_depth`: all of this for tokens that parse.
* `not_height_le_nesting`: the nesting alone is no bound.
-/

namespace Calculator

/-! ### The height of a tree -/

mutual

/-- The number of nodes on the longest way down; leaves do not count. A function that calls itself
on those children that are nodes is as many calls deep. -/
def Tree.height : Tree → Nat
  | .leaf _ => 0
  | .node _ children => heightOf children + 1

/-- The height of the highest of several trees. -/
def Tree.heightOf : List Tree → Nat
  | [] => 0
  | t :: ts => max t.height (heightOf ts)

end

namespace Tree

theorem height_le_heightOf {t : Tree} {ts : List Tree} (mem : t ∈ ts) :
    t.height ≤ heightOf ts := by
  induction ts with
  | nil => cases mem
  | cons first ts ih =>
    rw [heightOf]
    cases mem with
    | head => exact Nat.le_max_left _ _
    | tail _ mem => exact Nat.le_trans (ih mem) (Nat.le_max_right _ _)

/-- One of several trees is the highest, if they have any nodes. -/
theorem exists_height_eq {ts : List Tree} (h : 0 < heightOf ts) :
    ∃ t ∈ ts, t.height = heightOf ts := by
  induction ts with
  | nil => cases h
  | cons first ts ih =>
    rw [heightOf] at h ⊢
    rcases Nat.le_total (heightOf ts) first.height with le | le
    · exact ⟨first, List.mem_cons_self, (Nat.max_eq_left le).symm⟩
    · rw [Nat.max_eq_right le] at h ⊢
      obtain ⟨t, mem, highest⟩ := ih h
      exact ⟨t, List.mem_cons_of_mem _ mem, highest⟩

/-- Leaves have no height. -/
theorem heightOf_filter (ts : List Tree) : heightOf (ts.filter isNode) = heightOf ts := by
  induction ts with
  | nil => rfl
  | cons t ts ih => cases t <;> simp [heightOf, height, List.filter_cons, ih]

/-- `t.Descends order n`: a function that takes the children of a node in some order and calls
itself on those that are nodes comes to have `n` calls under way on `t`, itself the first. -/
inductive Descends (order : Label → List Tree → List Tree) : Tree → Nat → Prop where
  | root (label : Label) (children : List Tree) : Descends order (.node label children) 1
  | child {label : Label} {children : List Tree} {t : Tree} {n : Nat}
      (mem : t ∈ order label children) (descends : Descends order t n) :
      Descends order (.node label children) (n + 1)

/-- The most calls that such a function has under way at a time. -/
def IsDepth (order : Label → List Tree → List Tree) (t : Tree) (depth : Nat) : Prop :=
  IsGreatest {n | t.Descends order n} depth

section Order

variable {order : Label → List Tree → List Tree}
  (same : ∀ label children t, t ∈ order label children ↔ t ∈ children)

include same

theorem Descends.le_height {t : Tree} {n : Nat} (h : t.Descends order n) : n ≤ t.height := by
  induction h with
  | root => exact Nat.le_add_left 1 _
  | child mem _ ih =>
    exact Nat.succ_le_succ (Nat.le_trans ih (height_le_heightOf ((same _ _ _).mp mem)))

/-- The way down the highest children is as long as the tree is high. -/
theorem descends_of_height {t : Tree} {n : Nat} (h : t.height = n + 1) :
    t.Descends order (n + 1) := by
  induction n generalizing t with
  | zero =>
    cases t with
    | leaf => cases h
    | node label children => exact .root label children
  | succ n ih =>
    cases t with
    | leaf => cases h
    | node label children =>
      have below : heightOf children = n + 1 := Nat.succ.inj h
      have positive : 0 < heightOf children := by omega
      obtain ⟨t, mem, highest⟩ := exists_height_eq positive
      exact .child ((same _ _ _).mpr mem) (ih (highest.trans below))

/-- **A function that works through a tree comes to have as many calls under way as the tree is
high**, in whatever order it takes the children. -/
theorem isDepth_height {t : Tree} (h : t.isNode) : t.IsDepth order t.height := by
  cases t with
  | leaf => cases h
  | node label children =>
    exact ⟨descends_of_height same rfl, fun n descends => descends.le_height same⟩

end Order

/-- Flattening takes every child of a node. -/
theorem mem_visitOrder (label : Label) (children : List Tree) (t : Tree) :
    t ∈ visitOrder label children ↔ t ∈ children := (visitOrder_perm label children).mem_iff

end Tree

@[simp] theorem Expression.height_mk (term : Term) (tail : SumTail) :
    (Expression.mk term tail).toTree.height = max term.toTree.height tail.toTree.height + 1 := by
  simp [Expression.toTree, Tree.height, Tree.heightOf]

@[simp] theorem Term.height_mk (factor : Factor) (tail : ProductTail) :
    (Term.mk factor tail).toTree.height = max factor.toTree.height tail.toTree.height + 1 := by
  simp [Term.toTree, Tree.height, Tree.heightOf]

@[simp] theorem SumTail.height_empty : SumTail.empty.toTree.height = 1 := by
  simp [SumTail.toTree, Tree.height, Tree.heightOf]

@[simp] theorem SumTail.height_next (op : Additive) (term : Term) (tail : SumTail) :
    (SumTail.next op term tail).toTree.height =
      max term.toTree.height tail.toTree.height + 1 := by
  simp [SumTail.toTree, Tree.height, Tree.heightOf]

@[simp] theorem ProductTail.height_empty : ProductTail.empty.toTree.height = 1 := by
  simp [ProductTail.toTree, Tree.height, Tree.heightOf]

@[simp] theorem ProductTail.height_next (op : Multiplicative) (factor : Factor)
    (tail : ProductTail) :
    (ProductTail.next op factor tail).toTree.height =
      max factor.toTree.height tail.toTree.height + 1 := by
  simp [ProductTail.toTree, Tree.height, Tree.heightOf]

@[simp] theorem Factor.height_group (inner : Expression) :
    (Factor.group inner).toTree.height = inner.toTree.height + 1 := by
  simp [Factor.toTree, Tree.height, Tree.heightOf]

@[simp] theorem Factor.height_negation (operand : Factor) :
    (Factor.negation operand).toTree.height = operand.toTree.height + 1 := by
  simp [Factor.toTree, Tree.height, Tree.heightOf]

@[simp] theorem Factor.height_number (text : String) :
    (Factor.number text).toTree.height = 1 := by
  simp [Factor.toTree, Tree.height, Tree.heightOf]

/-! ### Calls inside calls -/

/-- Of two lists that are related entry by entry, each entry of the first has one in the second. -/
theorem exists_mem_of_forall₂ {α β : Type} {R : α → β → Prop} {as : List α} {bs : List β}
    (h : List.Forall₂ R as bs) {a : α} (mem : a ∈ as) : ∃ b ∈ bs, R a b := by
  induction h with
  | nil => cases mem
  | @cons a' b _ _ related _ ih =>
    cases mem with
    | head => exact ⟨b, List.mem_cons_self, related⟩
    | tail _ mem =>
      obtain ⟨b, mem, related⟩ := ih mem
      exact ⟨b, List.mem_cons_of_mem _ mem, related⟩

namespace Cursor

/-- `c.Nested label n`: a run of the rule at `c` comes to have `n` calls under way, itself the
first and each made by the one before. -/
inductive Nested : Cursor → Label → Nat → Prop where
  | run (c : Cursor) (label : Label) : Nested c label 1
  | call {c d : Cursor} {label label' : Label} {n : Nat} (calls : c.Calls label label' d)
      (nested : Nested d label' n) : Nested c label (n + 1)

/-- The most calls that are under way at a time in a run of the rule at `c`. -/
def IsDepth (c : Cursor) (label : Label) (depth : Nat) : Prop :=
  IsGreatest {n | c.Nested label n} depth

/-- A run is one call deeper than the deepest of the runs that it calls, as a node is one higher
than the highest of its children. -/
theorem Makes.isDepth {c : Cursor} {label : Label} {calls : List (Label × Cursor)} {ts : List Tree}
    (makes : c.Makes label calls)
    (depths : List.Forall₂ (fun call t => call.2.IsDepth call.1 t.height) calls ts) :
    c.IsDepth label (Tree.heightOf ts + 1) := by
  constructor
  · show c.Nested label (Tree.heightOf ts + 1)
    cases high : Tree.heightOf ts with
    | zero => exact .run c label
    | succ n =>
      have positive : 0 < Tree.heightOf ts := by omega
      obtain ⟨t, member, highest⟩ := Tree.exists_height_eq positive
      obtain ⟨call, called, depth⟩ := exists_mem_of_forall₂ depths.flip member
      have nested := depth.1
      rw [highest, high] at nested
      exact .call (makes.made call called) nested
  · intro n nested
    cases nested with
    | run => exact Nat.le_add_left 1 _
    | call called nested =>
      obtain ⟨t, member, depth⟩ := exists_mem_of_forall₂ depths (makes.complete called)
      exact Nat.succ_le_succ (Nat.le_trans (depth.2 nested) (Tree.height_le_heightOf member))

/-- **The calls nested in a run that succeeds are as many as the tree of the result is high.** -/
theorem rules_depth : ∀ c : Cursor,
    (∀ e d, c.expression = (.ok e, d) → c.IsDepth .expression e.toTree.height) ∧
      (∀ e d, c.term = (.ok e, d) → c.IsDepth .term e.toTree.height) ∧
      (∀ e d, c.sumTail = (.ok e, d) → c.IsDepth .sumTail e.toTree.height) ∧
      (∀ e d, c.productTail = (.ok e, d) → c.IsDepth .productTail e.toTree.height) ∧
      (∀ e d, c.factor = (.ok e, d) → c.IsDepth .factor e.toTree.height) := by
  refine runs_induction (motive := fun c label t => c.IsDepth label t.height)
    fun {c label calls children} makes depths => ?_
  have deeper := makes.isDepth depths
  rwa [Tree.subtrees, Tree.children, Tree.heightOf_filter] at deeper

end Cursor

/-! ### Nesting and chains -/

mutual

/-- The most parentheses and minus signs that stand around a number. -/
def Expression.nesting : Expression → Nat
  | .mk term tail => max term.nesting tail.nesting

/-- The most parentheses and minus signs that stand around a number of a term. -/
def Term.nesting : Term → Nat
  | .mk factor tail => max factor.nesting tail.nesting

/-- The most parentheses and minus signs that stand around a number of the tail of a sum. -/
def SumTail.nesting : SumTail → Nat
  | .empty => 0
  | .next _ term tail => max term.nesting tail.nesting

/-- The most parentheses and minus signs that stand around a number of the tail of a product. -/
def ProductTail.nesting : ProductTail → Nat
  | .empty => 0
  | .next _ factor tail => max factor.nesting tail.nesting

/-- The most parentheses and minus signs that stand around a number of a factor. -/
def Factor.nesting : Factor → Nat
  | .group inner => 1 + inner.nesting
  | .negation operand => 1 + operand.nesting
  | .number _ => 0

end

/-- The number of operators that the tail of a sum joins its terms with. -/
def SumTail.operators : SumTail → Nat
  | .empty => 0
  | .next _ _ tail => 1 + tail.operators

/-- The number of operators that the tail of a product joins its factors with. -/
def ProductTail.operators : ProductTail → Nat
  | .empty => 0
  | .next _ _ tail => 1 + tail.operators

mutual

/-- The number of operators in the longest chain: that of one sum or of one product, without what
stands in its groups. -/
def Expression.longestChain : Expression → Nat
  | .mk term tail => max tail.operators (max term.longestChain tail.longestChain)

/-- The number of operators in the longest chain of a term. -/
def Term.longestChain : Term → Nat
  | .mk factor tail => max tail.operators (max factor.longestChain tail.longestChain)

/-- The number of operators in the longest chain of the terms of a tail. -/
def SumTail.longestChain : SumTail → Nat
  | .empty => 0
  | .next _ term tail => max term.longestChain tail.longestChain

/-- The number of operators in the longest chain of the factors of a tail. -/
def ProductTail.longestChain : ProductTail → Nat
  | .empty => 0
  | .next _ factor tail => max factor.longestChain tail.longestChain

/-- The number of operators in the longest chain of a factor. -/
def Factor.longestChain : Factor → Nat
  | .group inner => inner.longestChain
  | .negation operand => operand.longestChain
  | .number _ => 0

end

/-! ### The height by nesting and chains

Between a group and the next one inside it lie an expression, the tails of a sum, a term, the tails
of a product and a factor. With at most `k` operators in a chain that makes `3 + 2 * k` nodes on a
way down, each tail but the last for one operator. -/

mutual

theorem Expression.height_le_of : ∀ (e : Expression) {k n : Nat}, e.longestChain ≤ k →
    e.nesting ≤ n → e.toTree.height ≤ (3 + 2 * k) + (3 + 2 * k) * n
  | .mk term tail, k, n, chain, nesting => by
    simp only [Expression.longestChain, Expression.nesting, Nat.max_le] at chain nesting
    have first := term.height_le_of chain.2.1 nesting.1
    have rest := tail.height_le_of chain.2.2 nesting.2
    rw [Expression.height_mk]
    omega

theorem Term.height_le_of : ∀ (e : Term) {k n : Nat}, e.longestChain ≤ k →
    e.nesting ≤ n → e.toTree.height ≤ (2 + k) + (3 + 2 * k) * n
  | .mk factor tail, k, n, chain, nesting => by
    simp only [Term.longestChain, Term.nesting, Nat.max_le] at chain nesting
    have first := factor.height_le_of chain.2.1 nesting.1
    have rest := tail.height_le_of chain.2.2 nesting.2
    rw [Term.height_mk]
    omega

theorem SumTail.height_le_of : ∀ (e : SumTail) {k n : Nat}, e.longestChain ≤ k →
    e.nesting ≤ n → e.toTree.height ≤ e.operators + (2 + k) + (3 + 2 * k) * n
  | .empty, k, n, _, _ => by
    rw [SumTail.height_empty]
    omega
  | .next op term tail, k, n, chain, nesting => by
    simp only [SumTail.longestChain, SumTail.nesting, Nat.max_le] at chain nesting
    have first := term.height_le_of chain.1 nesting.1
    have rest := tail.height_le_of chain.2 nesting.2
    rw [SumTail.height_next, SumTail.operators]
    omega

theorem ProductTail.height_le_of : ∀ (e : ProductTail) {k n : Nat}, e.longestChain ≤ k →
    e.nesting ≤ n → e.toTree.height ≤ e.operators + 1 + (3 + 2 * k) * n
  | .empty, k, n, _, _ => by
    rw [ProductTail.height_empty]
    omega
  | .next op factor tail, k, n, chain, nesting => by
    simp only [ProductTail.longestChain, ProductTail.nesting, Nat.max_le] at chain nesting
    have first := factor.height_le_of chain.1 nesting.1
    have rest := tail.height_le_of chain.2 nesting.2
    rw [ProductTail.height_next, ProductTail.operators]
    omega

theorem Factor.height_le_of : ∀ (e : Factor) {k n : Nat}, e.longestChain ≤ k →
    e.nesting ≤ n → e.toTree.height ≤ 1 + (3 + 2 * k) * n
  | .group inner, k, n, chain, nesting => by
    rw [Factor.longestChain] at chain
    rw [Factor.nesting] at nesting
    cases n with
    | zero => omega
    | succ n =>
      -- the parentheses take one from the nesting, which pays for what stands between them
      have inside := inner.height_le_of chain (n := n) (by omega)
      rw [Factor.height_group, Nat.mul_succ]
      omega
  | .negation operand, k, n, chain, nesting => by
    rw [Factor.longestChain] at chain
    rw [Factor.nesting] at nesting
    cases n with
    | zero => omega
    | succ n =>
      have inside := operand.height_le_of chain (n := n) (by omega)
      rw [Factor.height_negation, Nat.mul_succ]
      omega
  | .number text, k, n, _, _ => by
    rw [Factor.height_number]
    omega

end

/-- **The height is bounded by the nesting times the longest chain.** -/
theorem Expression.height_le (e : Expression) :
    e.toTree.height ≤ (3 + 2 * e.longestChain) * (1 + e.nesting) := by
  rw [Nat.mul_add, Nat.mul_one]
  exact e.height_le_of (Nat.le_refl _) (Nat.le_refl _)

mutual

/-- An expression is higher than its parentheses and minus signs nest. -/
theorem Expression.nesting_lt_height : ∀ e : Expression, e.nesting < e.toTree.height
  | .mk term tail => by
    have first := term.nesting_lt_height
    have rest := tail.nesting_lt_height
    rw [Expression.nesting, Expression.height_mk]
    omega

/-- A term is higher than its parentheses and minus signs nest. -/
theorem Term.nesting_lt_height : ∀ e : Term, e.nesting < e.toTree.height
  | .mk factor tail => by
    have first := factor.nesting_lt_height
    have rest := tail.nesting_lt_height
    rw [Term.nesting, Term.height_mk]
    omega

/-- The tail of a sum is higher than its parentheses and minus signs nest. -/
theorem SumTail.nesting_lt_height : ∀ e : SumTail, e.nesting < e.toTree.height
  | .empty => by simp [SumTail.nesting]
  | .next op term tail => by
    have first := term.nesting_lt_height
    have rest := tail.nesting_lt_height
    rw [SumTail.nesting, SumTail.height_next]
    omega

/-- The tail of a product is higher than its parentheses and minus signs nest. -/
theorem ProductTail.nesting_lt_height : ∀ e : ProductTail, e.nesting < e.toTree.height
  | .empty => by simp [ProductTail.nesting]
  | .next op factor tail => by
    have first := factor.nesting_lt_height
    have rest := tail.nesting_lt_height
    rw [ProductTail.nesting, ProductTail.height_next]
    omega

/-- A factor is higher than its parentheses and minus signs nest. -/
theorem Factor.nesting_lt_height : ∀ e : Factor, e.nesting < e.toTree.height
  | .group inner => by
    have inside := inner.nesting_lt_height
    rw [Factor.nesting, Factor.height_group]
    omega
  | .negation operand => by
    have inside := operand.nesting_lt_height
    rw [Factor.nesting, Factor.height_negation]
    omega
  | .number text => by simp [Factor.nesting]

end

/-- The tail of a sum is higher than it has operators. -/
theorem SumTail.operators_lt_height (e : SumTail) : e.operators < e.toTree.height := by
  cases e with
  | empty => simp [SumTail.operators]
  | next op term tail =>
    have rest := tail.operators_lt_height
    rw [SumTail.operators, SumTail.height_next]
    omega

/-- The tail of a product is higher than it has operators. -/
theorem ProductTail.operators_lt_height (e : ProductTail) : e.operators < e.toTree.height := by
  cases e with
  | empty => simp [ProductTail.operators]
  | next op factor tail =>
    have rest := tail.operators_lt_height
    rw [ProductTail.operators, ProductTail.height_next]
    omega

mutual

/-- An expression is higher than its longest chain has operators. -/
theorem Expression.longestChain_lt_height : ∀ e : Expression, e.longestChain < e.toTree.height
  | .mk term tail => by
    have chain := tail.operators_lt_height
    have first := term.longestChain_lt_height
    have rest := tail.longestChain_lt_height
    rw [Expression.longestChain, Expression.height_mk]
    omega

/-- A term is higher than its longest chain has operators. -/
theorem Term.longestChain_lt_height : ∀ e : Term, e.longestChain < e.toTree.height
  | .mk factor tail => by
    have chain := tail.operators_lt_height
    have first := factor.longestChain_lt_height
    have rest := tail.longestChain_lt_height
    rw [Term.longestChain, Term.height_mk]
    omega

/-- The tail of a sum is higher than the longest chain of its terms has operators. -/
theorem SumTail.longestChain_lt_height : ∀ e : SumTail, e.longestChain < e.toTree.height
  | .empty => by simp [SumTail.longestChain]
  | .next op term tail => by
    have first := term.longestChain_lt_height
    have rest := tail.longestChain_lt_height
    rw [SumTail.longestChain, SumTail.height_next]
    omega

/-- The tail of a product is higher than the longest chain of its factors has operators. -/
theorem ProductTail.longestChain_lt_height : ∀ e : ProductTail, e.longestChain < e.toTree.height
  | .empty => by simp [ProductTail.longestChain]
  | .next op factor tail => by
    have first := factor.longestChain_lt_height
    have rest := tail.longestChain_lt_height
    rw [ProductTail.longestChain, ProductTail.height_next]
    omega

/-- A factor is higher than its longest chain has operators. -/
theorem Factor.longestChain_lt_height : ∀ e : Factor, e.longestChain < e.toTree.height
  | .group inner => by
    have inside := inner.longestChain_lt_height
    rw [Factor.longestChain, Factor.height_group]
    omega
  | .negation operand => by
    have inside := operand.longestChain_lt_height
    rw [Factor.longestChain, Factor.height_negation]
    omega
  | .number text => by simp [Factor.longestChain]

end

/-! ### How deep a run is -/

/-- **How deep the parser and the functions on its trees recurse.** On tokens that parse, the most
calls of rules under way at a time are as many as the tree is high, and so are the most calls of a
function that works through the tree. This height is more than the nesting and more than the length
of the longest chain, and no more than their product with one and three added. -/
theorem parseTokens_depth {tokens : List Token} {e : Expression}
    (h : parseTokens tokens = .ok e) :
    (Cursor.ofTokens tokens).IsDepth .expression e.toTree.height ∧
      e.toTree.IsDepth Tree.visitOrder e.toTree.height ∧
      e.toTree.IsDepth (fun _ children => children) e.toTree.height ∧
      e.toTree.height ≤ (3 + 2 * e.longestChain) * (1 + e.nesting) ∧
      e.nesting < e.toTree.height ∧ e.longestChain < e.toTree.height := by
  obtain ⟨d, run, -⟩ := parseTokens_eq_ok.mp h
  have node : e.toTree.isNode := by cases e; rfl
  refine ⟨(Cursor.rules_depth _).1 e d run, ?_, ?_, e.height_le, e.nesting_lt_height,
    e.longestChain_lt_height⟩
  · exact Tree.isDepth_height Tree.mem_visitOrder node
  · exact Tree.isDepth_height (fun _ _ _ => Iff.rfl) node

/-- The tokens of `1-(2/3*-4)`: a group in a sum, and in it a product whose last factor is the
deepest. -/
theorem parseTokens_depth_product_in_group :
    let tokens : List Token :=
      [⟨.number, "1", ⟨0, 1⟩⟩, ⟨.minus, "-", ⟨1, 1⟩⟩, ⟨.openParen, "(", ⟨2, 1⟩⟩,
        ⟨.number, "2", ⟨3, 1⟩⟩, ⟨.slash, "/", ⟨4, 1⟩⟩, ⟨.number, "3", ⟨5, 1⟩⟩,
        ⟨.star, "*", ⟨6, 1⟩⟩, ⟨.minus, "-", ⟨7, 1⟩⟩, ⟨.number, "4", ⟨8, 1⟩⟩,
        ⟨.closeParen, ")", ⟨9, 1⟩⟩]
    let product : Term :=
      .mk (.number "2")
        (.next .over (.number "3") (.next .times (.negation (.number "4")) .empty))
    let e : Expression :=
      .mk (.mk (.number "1") .empty)
        (.next .minus (.mk (.group (.mk product .empty)) .empty) .empty)
    parseTokens tokens = .ok e ∧ (Cursor.ofTokens tokens).IsDepth .expression 10 ∧
      e.toTree.IsDepth Tree.visitOrder 10 ∧ 10 ≤ (3 + 2 * 2) * (1 + 2) ∧ e.longestChain = 2 ∧
      e.nesting = 2 := by
  intro tokens product e
  have parsed : parseTokens tokens = .ok e := parseTokens_of_spells (by decide)
  obtain ⟨run, traversal, -, bound, -, -⟩ := parseTokens_depth parsed
  exact ⟨parsed, run, traversal, bound, rfl, rfl⟩

/-! ### A chain without any nesting -/

/-- The tail of a sum that adds a one for each of some operators. -/
def SumTail.ones : Nat → SumTail
  | 0 => .empty
  | n + 1 => .next .plus (.mk (.number "1") .empty) (ones n)

theorem SumTail.operators_ones (n : Nat) : (SumTail.ones n).operators = n := by
  induction n with
  | zero => rfl
  | succ n ih => rw [SumTail.ones, SumTail.operators, ih, Nat.add_comm]

theorem SumTail.nesting_ones (n : Nat) : (SumTail.ones n).nesting = 0 := by
  induction n with
  | zero => rfl
  | succ n ih => simp [SumTail.ones, SumTail.nesting, Term.nesting, Factor.nesting,
      ProductTail.nesting, ih]

/-- **The height is not proportional to the nesting.** The sum of `c` ones and one more has no
parentheses and no minus signs, and is higher than `c`. -/
theorem not_height_le_nesting :
    ¬ ∃ c, ∀ tokens e, parseTokens tokens = .ok e → e.toTree.height ≤ c * (1 + e.nesting) := by
  rintro ⟨c, bound⟩
  let e : Expression := .mk (.mk (.number "1") .empty) (.ones c)
  have parsed : parseTokens (Leaf.layOut 0 e.toTree.leaves) = .ok e :=
    parseTokens_of_spells (Leaf.spells_layOut 0 _)
  have flat : e.nesting = 0 := by
    simp [e, Expression.nesting, Term.nesting, Factor.nesting, ProductTail.nesting,
      SumTail.nesting_ones]
  have high : c < (SumTail.ones c).toTree.height := by
    have longer := (SumTail.ones c).operators_lt_height
    rwa [SumTail.operators_ones] at longer
  have low := bound _ e parsed
  rw [flat, Expression.height_mk] at low
  omega

end Calculator
