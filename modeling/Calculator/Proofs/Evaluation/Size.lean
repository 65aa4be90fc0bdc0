import Calculator.Proofs.Evaluation.Trace
import Calculator.Proofs.Grammar.Calls
import Calculator.Proofs.Postfix.Leaves

/-!
How large the results of the stages are.

An expression without any marks is a number, with five nodes: itself, its term and factor, and the
two empty tails. Every mark adds its own. The operator of a sum brings a term and a tail, that of a
product a factor and a tail, a group an expression around its inside, and a negation its operand. So
the tokens, the nodes and the symbols are counted by the marks alone, whatever the order in which
they stand and wherever a `)` cuts a tail short.

* `Tree.groups`, `Tree.sums`, `Tree.products`, `Tree.negations`: the marks of a tree.
* `Expression.sized` and its like: the numbers and nodes of every rule.
* `Tree.length_leaves`, `Tree.length_linearize`: the leaves and the symbols by sort.
* `parseTokens_sizes`: the sizes for tokens that parse, and that they are linear in the input.
-/

namespace Calculator

/-! ### The marks of a tree -/

namespace Tree

/-- The number of groups. -/
def groups (t : Tree) : Nat := t.leaves.count .openParen

/-- The number of operators that join terms. -/
def sums (t : Tree) : Nat := t.leaves.count (.operator .add) + t.leaves.count (.operator .sub)

/-- The number of operators that join factors. -/
def products (t : Tree) : Nat := t.leaves.count (.operator .mul) + t.leaves.count (.operator .div)

/-- The number of negations. -/
def negations (t : Tree) : Nat := t.leaves.count .negation

/-- `t.Sized numbers nodes`: apart from what its marks bring in, the tree has so many numbers and
nodes. -/
structure Sized (numbers nodes : Nat) (t : Tree) : Prop where
  numbers_eq : t.numbers.length = numbers + t.sums + t.products
  nodes_eq : t.nodeCount = nodes + 5 * t.groups + 4 * t.sums + 2 * t.products + t.negations

/-- The size of a tree in terms of its leaves. -/
theorem sized_iff {numbers nodes : Nat} {t : Tree} :
    t.Sized numbers nodes ↔
      t.numbers.length =
          numbers + (t.leaves.count (.operator .add) + t.leaves.count (.operator .sub)) +
            (t.leaves.count (.operator .mul) + t.leaves.count (.operator .div)) ∧
        t.nodeCount =
          nodes + 5 * t.leaves.count .openParen +
            4 * (t.leaves.count (.operator .add) + t.leaves.count (.operator .sub)) +
            2 * (t.leaves.count (.operator .mul) + t.leaves.count (.operator .div)) +
            t.leaves.count .negation :=
  ⟨fun ⟨numbers, nodes⟩ => ⟨numbers, nodes⟩, fun ⟨numbers, nodes⟩ => ⟨numbers, nodes⟩⟩

end Tree

@[simp] theorem Expression.nodeCount_mk (term : Term) (tail : SumTail) :
    (Expression.mk term tail).toTree.nodeCount =
      1 + term.toTree.nodeCount + tail.toTree.nodeCount := by
  simp [Expression.toTree, Tree.nodeCount, Tree.nodeCountOf, Nat.add_assoc]

@[simp] theorem Term.nodeCount_mk (factor : Factor) (tail : ProductTail) :
    (Term.mk factor tail).toTree.nodeCount =
      1 + factor.toTree.nodeCount + tail.toTree.nodeCount := by
  simp [Term.toTree, Tree.nodeCount, Tree.nodeCountOf, Nat.add_assoc]

@[simp] theorem SumTail.nodeCount_empty : SumTail.empty.toTree.nodeCount = 1 := by
  simp [SumTail.toTree, Tree.nodeCount, Tree.nodeCountOf]

@[simp] theorem SumTail.nodeCount_next (op : Additive) (term : Term) (tail : SumTail) :
    (SumTail.next op term tail).toTree.nodeCount =
      1 + term.toTree.nodeCount + tail.toTree.nodeCount := by
  simp [SumTail.toTree, Tree.nodeCount, Tree.nodeCountOf, Nat.add_assoc]

@[simp] theorem ProductTail.nodeCount_empty : ProductTail.empty.toTree.nodeCount = 1 := by
  simp [ProductTail.toTree, Tree.nodeCount, Tree.nodeCountOf]

@[simp] theorem ProductTail.nodeCount_next (op : Multiplicative) (factor : Factor)
    (tail : ProductTail) :
    (ProductTail.next op factor tail).toTree.nodeCount =
      1 + factor.toTree.nodeCount + tail.toTree.nodeCount := by
  simp [ProductTail.toTree, Tree.nodeCount, Tree.nodeCountOf, Nat.add_assoc]

@[simp] theorem Factor.nodeCount_group (inner : Expression) :
    (Factor.group inner).toTree.nodeCount = 1 + inner.toTree.nodeCount := by
  simp [Factor.toTree, Tree.nodeCount, Tree.nodeCountOf]

@[simp] theorem Factor.nodeCount_negation (operand : Factor) :
    (Factor.negation operand).toTree.nodeCount = 1 + operand.toTree.nodeCount := by
  simp [Factor.toTree, Tree.nodeCount, Tree.nodeCountOf]

@[simp] theorem Factor.nodeCount_number (text : String) :
    (Factor.number text).toTree.nodeCount = 1 := by
  simp [Factor.toTree, Tree.nodeCount, Tree.nodeCountOf]

/-! ### The size of each rule

Every rule adds up the sizes of its parts. The marks that stand apart are those of the rule itself,
and the numbers and nodes that are left over are those of a number with its empty tails. -/

mutual

/-- An expression has one number and five nodes. -/
theorem Expression.sized : ∀ e : Expression, e.toTree.Sized 1 5
  | .mk term tail => by
    have first := term.sized
    have rest := tail.sized
    simp [Tree.sized_iff] at first rest ⊢
    omega

/-- A term has one number and three nodes. -/
theorem Term.sized : ∀ e : Term, e.toTree.Sized 1 3
  | .mk factor tail => by
    have first := factor.sized
    have rest := tail.sized
    simp [Tree.sized_iff] at first rest ⊢
    omega

/-- The tail of a sum has no number and one node. -/
theorem SumTail.sized : ∀ e : SumTail, e.toTree.Sized 0 1
  | .empty => by simp [Tree.sized_iff]
  | .next op term tail => by
    have first := term.sized
    have rest := tail.sized
    cases op <;> simp [Tree.sized_iff, Additive.operator] at first rest ⊢ <;> omega

/-- The tail of a product has no number and one node. -/
theorem ProductTail.sized : ∀ e : ProductTail, e.toTree.Sized 0 1
  | .empty => by simp [Tree.sized_iff]
  | .next op factor tail => by
    have first := factor.sized
    have rest := tail.sized
    cases op <;> simp [Tree.sized_iff, Multiplicative.operator] at first rest ⊢ <;> omega

/-- A factor has one number and one node. -/
theorem Factor.sized : ∀ e : Factor, e.toTree.Sized 1 1
  | .group inner => by
    have inside := inner.sized
    simp [Tree.sized_iff] at inside ⊢
    omega
  | .negation operand => by
    have inside := operand.sized
    simp [Tree.sized_iff] at inside ⊢
    omega
  | .number text => by simp [Tree.sized_iff]

end

/-! ### Leaves, tokens and symbols -/

/-- Tokens that spell leaves have as many `(`, `)` and numbers as these. -/
theorem count_kind_of_spells {tokens : List Token} {leaves : List Leaf}
    (h : List.Forall₂ Token.Spells tokens leaves) :
    (tokens.map Token.kind).count .openParen = leaves.count .openParen ∧
      (tokens.map Token.kind).count .closeParen = leaves.count .closeParen ∧
      (tokens.map Token.kind).count .number = (leaves.filterMap Leaf.number?).length := by
  rw [map_kind_of_spells h]
  clear h
  induction leaves with
  | nil => exact ⟨rfl, rfl, rfl⟩
  | cons leaf leaves ih =>
    obtain ⟨opened, closed, numbers⟩ := ih
    cases leaf with
    | operator op =>
      cases op <;> simp [Leaf.kind, List.filterMap_cons, Leaf.number?, opened, closed, numbers]
    | _ => simp [Leaf.kind, List.filterMap_cons, Leaf.number?, opened, closed, numbers]

/-- Each group of an expression has its `)`. -/
theorem Expression.count_closeParen (e : Expression) :
    e.toTree.leaves.count .closeParen = e.toTree.groups := by
  obtain ⟨opened, closed, -⟩ := count_kind_of_spells (Leaf.spells_layOut 0 e.toTree.leaves)
  have back := e.depthAfter_leaves 0
  rw [← map_kind_of_spells (Leaf.spells_layOut 0 _)] at back
  have even := Kind.count_of_depthAfter back
  rw [Tree.groups]
  omega

/-- The leaves of a tree are its numbers, its operators, its negations and the parentheses. -/
theorem Tree.length_leaves (t : Tree) :
    t.leaves.length = t.numbers.length + t.sums + t.products + t.negations + t.groups +
      t.leaves.count .closeParen := by
  rw [Tree.numbers, Tree.sums, Tree.products, Tree.negations, Tree.groups]
  induction t.leaves with
  | nil => rfl
  | cons leaf leaves ih =>
    cases leaf with
    | operator op => cases op <;> simp [List.filterMap_cons, Leaf.number?, ih] <;> omega
    | _ => simp [List.filterMap_cons, Leaf.number?, ih]; omega

/-- All leaves but the parentheses have a symbol. -/
theorem Tree.length_linearize (t : Tree) :
    t.linearize.length + t.groups + t.leaves.count .closeParen = t.leaves.length := by
  rw [t.linearize_perm.length_eq, Tree.groups]
  induction t.leaves with
  | nil => rfl
  | cons leaf leaves ih =>
    cases leaf <;> simp [List.filterMap_cons, Symbol.ofLeaf?] <;> omega

/-- **The sizes of what the stages make of tokens that parse.** With `p` opening parentheses among
the tokens, `s` operators of sums, `m` operators of products and `u` negations in the tree, there
are `p` closing parentheses and `1 + s + m` numbers among the tokens, which are
`1 + 2s + 2m + 2p + u`. The tree has `5(1 + p) + 4s + 2m + u` nodes; so many the log names, and so
many calls of rules the parser makes. The postfix sequence has a symbol for each token other than a
parenthesis. So the calls, the nodes, the leaves and the symbols are bounded by a multiple of the
tokens. -/
theorem parseTokens_sizes {tokens : List Token} {e : Expression}
    (h : parseTokens tokens = .ok e) :
    let kinds := tokens.map Token.kind
    let leaves := e.toTree.leaves
    let p := kinds.count .openParen
    let s := leaves.count (.operator .add) + leaves.count (.operator .sub)
    let m := leaves.count (.operator .mul) + leaves.count (.operator .div)
    let u := leaves.count .negation
    let nodes := 5 * (1 + p) + 4 * s + 2 * m + u
    (kinds.count .closeParen = p ∧ kinds.count .number = 1 + s + m ∧
        tokens.length = 1 + 2 * s + 2 * m + 2 * p + u) ∧
      (e.toTree.nodeCount = nodes ∧ (Cursor.ofTokens tokens).IsCallCount .expression nodes ∧
        ∀ text, lex text = .ok tokens →
          .parsed tokens.length nodes ∈ (evaluateLogged text).records) ∧
      e.toTree.linearize.length + 2 * p = tokens.length ∧
      leaves.length = tokens.length ∧ nodes ≤ 5 * tokens.length := by
  intro kinds leaves p s m u nodes
  have spells := spells_of_parseTokens h
  obtain ⟨opened, closed, numbers⟩ := count_kind_of_spells spells
  have groups : p = e.toTree.groups := opened
  have sums : s = e.toTree.sums := rfl
  have products : m = e.toTree.products := rfl
  have negations : u = e.toTree.negations := rfl
  obtain ⟨numbersInTree, nodesInTree⟩ := e.sized
  have closedInTree := e.count_closeParen
  have sameLength : leaves.length = tokens.length := spells.length_eq.symm
  have total : tokens.length = 1 + 2 * s + 2 * m + 2 * p + u := by
    have sorts : leaves.length = _ := e.toTree.length_leaves
    omega
  have symbols : e.toTree.linearize.length + 2 * p = tokens.length := by
    have others : _ = leaves.length := e.toTree.length_linearize
    omega
  have nodeCount : e.toTree.nodeCount = nodes := by omega
  refine ⟨⟨closed.trans (closedInTree.trans groups.symm), numbers.trans numbersInTree, total⟩,
    ⟨nodeCount, ?calls, ?log⟩, symbols, sameLength, by omega⟩
  case calls =>
    obtain ⟨d, run, -⟩ := parseTokens_eq_ok.mp h
    rw [← nodeCount]
    exact (Cursor.rules_callCount _).1 e d run
  case log =>
    intro text lexed
    rw [evaluateLogged_of_parse lexed h, ← nodeCount]
    exact .tail _ (.head _)

/-- The tokens of `-(1+2)*3`: a negated group in a product. -/
theorem parseTokens_sizes_negated_group :
    let tokens : List Token :=
      [⟨.minus, "-", ⟨0, 1⟩⟩, ⟨.openParen, "(", ⟨1, 1⟩⟩, ⟨.number, "1", ⟨2, 1⟩⟩,
        ⟨.plus, "+", ⟨3, 1⟩⟩, ⟨.number, "2", ⟨4, 1⟩⟩, ⟨.closeParen, ")", ⟨5, 1⟩⟩,
        ⟨.star, "*", ⟨6, 1⟩⟩, ⟨.number, "3", ⟨7, 1⟩⟩]
    let sum : Expression :=
      .mk (.mk (.number "1") .empty) (.next .plus (.mk (.number "2") .empty) .empty)
    let e : Expression :=
      .mk (.mk (.negation (.group sum)) (.next .times (.number "3") .empty)) .empty
    parseTokens tokens = .ok e ∧ tokens.length = 8 ∧ e.toTree.nodeCount = 17 ∧
      (Cursor.ofTokens tokens).IsCallCount .expression 17 ∧
      .parsed 8 17 ∈ (evaluateLogged "-(1+2)*3").records ∧ e.toTree.linearize.length = 6 := by
  intro tokens sum e
  have parsed : parseTokens tokens = .ok e := parseTokens_of_spells (by decide)
  have lexed : lex "-(1+2)*3" = .ok tokens := by decide +kernel
  obtain ⟨-, ⟨nodes, calls, log⟩, symbols, -, -⟩ := parseTokens_sizes parsed
  have symbolsAndParens : e.toTree.linearize.length + 2 * 1 = 8 := symbols
  exact ⟨parsed, rfl, nodes, calls, log _ lexed, by omega⟩

end Calculator
