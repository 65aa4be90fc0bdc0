import Calculator.Proofs.Evaluation.Groups
import Calculator.Proofs.Grammar.Depth

/-!
How deep the lines of an outline stand.

An outline goes through the nodes and leaves of a tree, parents before children, and a child stands
one level below its parent. So no line stands deeper than the tree is high, and in the tree of an
expression one does: on the longest way down there is a number at the end. Lines are indented in
fields, and that puts an end to outlines at the level 32767. Since heights have no bound, some
expressions have no outline.

* `Tree.preorder`: the nodes and leaves of a tree, with their depths, parents before children.
* `Tree.outlineLines_eq`: the lines of an outline tell these.
* `Tree.indentable_iff`: outlines stop at one level.
* `Expression.outline?_eq_none_iff`: the height tells whether an expression has an outline.
* `parse_minuses`: a number behind minus signs, which is as high as they are many.
-/

namespace Calculator

namespace Tree

/-! ### Nodes and leaves with their depths -/

/-- What an outline has of the root: its label or, for a leaf, its text between quotes. -/
def heading : Tree → String
  | .leaf l => Text.quote l.text
  | .node label _ => label.name

mutual

/-- A tree that stands `depth` levels down and all the nodes and leaves in it, each with its own
depth, parents before children. -/
def preorder (depth : Nat) : Tree → List (Nat × Tree)
  | .leaf l => [(depth, .leaf l)]
  | .node label children => (depth, .node label children) :: preorderOf (depth + 1) children

/-- The same for several trees, one after the other. -/
def preorderOf (depth : Nat) : List Tree → List (Nat × Tree)
  | [] => []
  | t :: ts => t.preorder depth ++ preorderOf depth ts

end

/-- What an outline tells of a node or leaf: its depth and its heading. -/
def told (entry : Nat × Tree) : Nat × String := (entry.1, entry.2.heading)

mutual

/-- **The lines of an outline tell the nodes and leaves**, parents before children. -/
theorem outlineLines_eq (depth : Nat) (rest : List (Nat × String)) : ∀ t : Tree,
    t.outlineLines depth rest = (t.preorder depth).map told ++ rest
  | .leaf l => rfl
  | .node label children => by
    rw [outlineLines, preorder, outlineLinesOf_eq (depth + 1) rest children]
    rfl

theorem outlineLinesOf_eq (depth : Nat) (rest : List (Nat × String)) : ∀ ts : List Tree,
    outlineLinesOf depth rest ts = (preorderOf depth ts).map told ++ rest
  | [] => rfl
  | t :: ts => by
    rw [outlineLinesOf, preorderOf, outlineLines_eq depth _ t, outlineLinesOf_eq depth rest ts,
      List.map_append, List.append_assoc]

end

theorem mem_preorderOf {depth : Nat} {ts : List Tree} {entry : Nat × Tree} :
    entry ∈ preorderOf depth ts ↔ ∃ t ∈ ts, entry ∈ t.preorder depth := by
  induction ts with
  | nil => simp [preorderOf]
  | cons t ts ih => simp [preorderOf, ih]

/-- **Outlines stop at one level**: a tree has one if none of its nodes and leaves stands deeper. -/
theorem indentable_iff {t : Tree} : t.Indentable ↔ ∀ entry ∈ t.preorder 0, entry.1 ≤ 32767 := by
  have fits (depth : Nat) : indent depth ≤ Text.widest ↔ depth ≤ 32767 := by
    simp only [indent, Text.widest]
    omega
  simp only [Indentable, outlineLines_eq, List.append_nil, List.forall_mem_map, fits, told]

theorem outline?_eq_none_iff {t : Tree} : t.outline? = none ↔ ¬ t.Indentable := by
  unfold outline?
  split <;> simp [*]

/-! ### Depths and heights -/

mutual

/-- Nothing in a tree stands deeper than the tree is high. -/
theorem le_of_mem_preorder (depth : Nat) : ∀ (t : Tree) (entry : Nat × Tree),
    entry ∈ t.preorder depth → entry.1 ≤ depth + t.height
  | .leaf l, entry, member => by
    rw [preorder, List.mem_singleton] at member
    rw [member]
    exact Nat.le_add_right _ _
  | .node label children, entry, member => by
    rw [preorder, List.mem_cons] at member
    rw [height]
    rcases member with rfl | below
    · exact Nat.le_add_right _ _
    · have deep := le_of_mem_preorderOf (depth + 1) children entry below
      omega

theorem le_of_mem_preorderOf (depth : Nat) : ∀ (ts : List Tree) (entry : Nat × Tree),
    entry ∈ preorderOf depth ts → entry.1 ≤ depth + heightOf ts
  | [], entry, member => by cases member
  | t :: ts, entry, member => by
    rw [preorderOf, List.mem_append] at member
    rw [heightOf]
    rcases member with first | later
    · have deep := le_of_mem_preorder depth t entry first
      omega
    · have deep := le_of_mem_preorderOf depth ts entry later
      omega

end

/-- Somewhere in the tree a leaf stands as deep as the tree is high. -/
def HasLowestLeaf (t : Tree) : Prop := ∀ depth, ∃ l, (depth + t.height, .leaf l) ∈ t.preorder depth

theorem hasLowestLeaf_leaf (l : Leaf) : (Tree.leaf l).HasLowestLeaf :=
  fun depth => ⟨l, by simp [preorder, height]⟩

/-- A node has such a leaf if the highest of its children has one. -/
theorem HasLowestLeaf.node {label : Label} {children : List Tree} {t : Tree}
    (lowest : t.HasLowestLeaf) (member : t ∈ children) (highest : t.height = heightOf children) :
    (Tree.node label children).HasLowestLeaf := by
  intro depth
  obtain ⟨l, deep⟩ := lowest (depth + 1)
  refine ⟨l, ?_⟩
  have sameDepth : depth + (Tree.node label children).height = depth + 1 + t.height := by
    rw [height, highest]
    omega
  rw [sameDepth, preorder]
  exact List.mem_cons_of_mem _ (mem_preorderOf.mpr ⟨t, member, deep⟩)

/-- All children may be the highest, if each of them has such a leaf or is no higher than one that
has it. -/
theorem HasLowestLeaf.node_of_forall {label : Label} {children : List Tree} {t : Tree}
    (lowest : t.HasLowestLeaf) (member : t ∈ children)
    (others : ∀ u ∈ children, u.HasLowestLeaf ∨ u.height ≤ t.height) :
    (Tree.node label children).HasLowestLeaf := by
  rcases Nat.eq_zero_or_pos (heightOf children) with flat | high
  · have bound := height_le_heightOf member
    exact lowest.node member (by omega)
  · obtain ⟨u, inside, highest⟩ := exists_height_eq high
    rcases others u inside with deep | lower
    · exact deep.node inside highest
    · have bound := height_le_heightOf member
      exact lowest.node member (by omega)

end Tree

/-! ### Expressions -/

theorem Term.height_pos (e : Term) : 0 < e.toTree.height := by
  cases e
  rw [Term.height_mk]
  omega

theorem Factor.height_pos (e : Factor) : 0 < e.toTree.height := by
  cases e with
  | group inner => rw [Factor.height_group]; omega
  | negation operand => rw [Factor.height_negation]; omega
  | number text => rw [Factor.height_number]; omega

mutual

/-- The number at the end of the longest way down. -/
theorem Expression.hasLowestLeaf : ∀ e : Expression, e.toTree.HasLowestLeaf
  | .mk term tail => by
    rw [Expression.toTree]
    refine term.hasLowestLeaf.node_of_forall (by simp) ?_
    simp only [List.forall_mem_cons]
    exact ⟨.inl term.hasLowestLeaf, tail.hasLowestLeaf_or.imp_right (·.trans term.height_pos),
      by simp⟩

theorem Term.hasLowestLeaf : ∀ e : Term, e.toTree.HasLowestLeaf
  | .mk factor tail => by
    rw [Term.toTree]
    refine factor.hasLowestLeaf.node_of_forall (by simp) ?_
    simp only [List.forall_mem_cons]
    exact ⟨.inl factor.hasLowestLeaf, tail.hasLowestLeaf_or.imp_right (·.trans factor.height_pos),
      by simp⟩

/-- A tail has one too, unless it is empty. -/
theorem SumTail.hasLowestLeaf_or : ∀ e : SumTail, e.toTree.HasLowestLeaf ∨ e.toTree.height ≤ 1
  | .empty => .inr (by simp)
  | .next op term tail => by
    left
    rw [SumTail.toTree]
    refine term.hasLowestLeaf.node_of_forall (by simp) ?_
    simp only [List.forall_mem_cons]
    exact ⟨.inl (Tree.hasLowestLeaf_leaf _), .inl term.hasLowestLeaf,
      tail.hasLowestLeaf_or.imp_right (·.trans term.height_pos), by simp⟩

theorem ProductTail.hasLowestLeaf_or : ∀ e : ProductTail,
    e.toTree.HasLowestLeaf ∨ e.toTree.height ≤ 1
  | .empty => .inr (by simp)
  | .next op factor tail => by
    left
    rw [ProductTail.toTree]
    refine factor.hasLowestLeaf.node_of_forall (by simp) ?_
    simp only [List.forall_mem_cons]
    exact ⟨.inl (Tree.hasLowestLeaf_leaf _), .inl factor.hasLowestLeaf,
      tail.hasLowestLeaf_or.imp_right (·.trans factor.height_pos), by simp⟩

theorem Factor.hasLowestLeaf : ∀ e : Factor, e.toTree.HasLowestLeaf
  | .group inner => by
    rw [Factor.toTree]
    refine inner.hasLowestLeaf.node_of_forall (by simp) ?_
    simp only [List.forall_mem_cons]
    exact ⟨.inl (Tree.hasLowestLeaf_leaf _), .inl inner.hasLowestLeaf,
      .inl (Tree.hasLowestLeaf_leaf _), by simp⟩
  | .negation operand => by
    rw [Factor.toTree]
    refine operand.hasLowestLeaf.node_of_forall (by simp) ?_
    simp only [List.forall_mem_cons]
    exact ⟨.inl (Tree.hasLowestLeaf_leaf _), .inl operand.hasLowestLeaf, by simp⟩
  | .number text => by
    rw [Factor.toTree]
    exact (Tree.hasLowestLeaf_leaf _).node (List.mem_singleton_self _) rfl

end

/-- **The height tells whether an expression has an outline.** -/
theorem Expression.outline?_eq_none_iff (e : Expression) :
    e.toTree.outline? = none ↔ 32767 < e.toTree.height := by
  rw [Tree.outline?_eq_none_iff, Tree.indentable_iff, ← Nat.not_le, not_iff_not]
  constructor
  · intro shallow
    obtain ⟨l, deep⟩ := e.hasLowestLeaf 0
    simpa using shallow _ deep
  · intro low entry member
    have deep := Tree.le_of_mem_preorder 0 e.toTree entry member
    omega

/-! ### Minus signs before a number -/

/-- A one behind `n` minus signs. -/
def Factor.minuses : Nat → Factor
  | 0 => .number "1"
  | n + 1 => .negation (minuses n)

theorem Factor.text_minuses (n : Nat) :
    (Factor.minuses n).toTree.text = String.ofList (List.replicate n '-' ++ ['1']) := by
  induction n with
  | zero => rfl
  | succ n ih =>
    rw [Factor.minuses, Factor.text_negation, ih, List.replicate_succ, List.cons_append,
      String.ofList_cons]
    rfl

theorem Factor.numbers_minuses (n : Nat) : (Factor.minuses n).toTree.numbers = ["1"] := by
  induction n with
  | zero => rw [Factor.minuses, Factor.numbers_number]
  | succ n ih => rw [Factor.minuses, Factor.numbers_negation, ih]

theorem Factor.height_minuses (n : Nat) : (Factor.minuses n).toTree.height = n + 1 := by
  induction n with
  | zero => rw [Factor.minuses, Factor.height_number]
  | succ n ih => rw [Factor.minuses, Factor.height_negation, ih]

/-- Any number of minus signs may stand before a number, and the tree is as much higher. -/
theorem parse_minuses (n : Nat) :
    ∃ e, parse (String.ofList (List.replicate n '-' ++ ['1'])) = .ok e ∧
      e.toTree.height = n + 3 := by
  refine ⟨(Factor.minuses n).toExpression, parse_eq_ok_iff.mpr ⟨?text, ?digits⟩, ?height⟩
  case text => rw [Factor.text_toExpression, Factor.text_minuses]
  case digits =>
    rw [Factor.numbers_toExpression, Factor.numbers_minuses]
    decide
  case height =>
    rw [Factor.toExpression, Expression.height_mk, Term.height_mk, Factor.height_minuses,
      SumTail.height_empty, ProductTail.height_empty]
    omega

end Calculator
