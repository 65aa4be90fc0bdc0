import Calculator.Proofs.Grammar.Rules
import Calculator.Proofs.Grammar.Shape
import Mathlib.Data.List.Forall2
import Mathlib.Data.Set.Card

/-!
Which rules call which.

A rule that runs calls others, and these call others again. Where the rule succeeds it has made one
call for each child of its node that is a node itself, in the order of the children, and each of
these has succeeded with that child. So whatever is to be known of the calls of a run can be read
off the tree of its result.

* `Cursor.Calls`: what a rule calls, and where.
* `Cursor.Makes`: all calls that a rule makes, and `Cursor.makes_expression` and its like: what
  these are for each way a rule can succeed.
* `Cursor.runs_induction`: what holds of a run if it holds of the runs it calls, holds of every run
  that succeeds.
* `Cursor.IsCallCount`, `Cursor.rules_callCount`: a run makes as many calls as its tree has nodes.
-/

namespace Calculator

namespace Cursor

/-! ### The calls of a rule -/

/-- `c.Calls label label' d`: the rule named `label`, run at `c`, calls the rule named `label'`
at `d`. A rule calls its second part only where the first has succeeded. -/
inductive Calls (c : Cursor) : Label → Label → Cursor → Prop where
  | expressionTerm : Calls c .expression .term c
  | expressionTail {term : Term} {d : Cursor} (h : c.term = (.ok term, d)) :
      Calls c .expression .sumTail d
  | termFactor : Calls c .term .factor c
  | termTail {factor : Factor} {d : Cursor} (h : c.factor = (.ok factor, d)) :
      Calls c .term .productTail d
  | sumTerm {token : Token} {rest : List Token} {op : Additive} (flag : c.groupClosed = false)
      (next : c.rest = token :: rest) (operator : additive? token.kind = some op) :
      Calls c .sumTail .term { c with rest }
  | sumTail {token : Token} {rest : List Token} {op : Additive} {term : Term} {d : Cursor}
      (flag : c.groupClosed = false) (next : c.rest = token :: rest)
      (operator : additive? token.kind = some op)
      (h : ({ c with rest } : Cursor).term = (.ok term, d)) : Calls c .sumTail .sumTail d
  | productFactor {token : Token} {rest : List Token} {op : Multiplicative}
      (flag : c.groupClosed = false) (next : c.rest = token :: rest)
      (operator : multiplicative? token.kind = some op) :
      Calls c .productTail .factor { c with rest }
  | productTail {token : Token} {rest : List Token} {op : Multiplicative} {factor : Factor}
      {d : Cursor} (flag : c.groupClosed = false) (next : c.rest = token :: rest)
      (operator : multiplicative? token.kind = some op)
      (h : ({ c with rest } : Cursor).factor = (.ok factor, d)) :
      Calls c .productTail .productTail d
  | groupInner {token : Token} {rest : List Token} (next : c.rest = token :: rest)
      (kind : token.kind = .openParen) :
      Calls c .factor .expression { c with rest, openGroups := c.openGroups + 1 }
  | negationOperand {token : Token} {rest : List Token} (next : c.rest = token :: rest)
      (kind : token.kind = .minus) : Calls c .factor .factor { c with rest }

/-- `c.Makes label calls`: the rule named `label`, run at `c`, calls the rules in the list, each at
its cursor, and no others. No two of them are the same rule. -/
structure Makes (c : Cursor) (label : Label) (calls : List (Label × Cursor)) : Prop where
  distinct : (calls.map Prod.fst).Nodup
  made : ∀ call ∈ calls, c.Calls label call.1 call.2
  complete : ∀ {label' d}, c.Calls label label' d → (label', d) ∈ calls

variable {c d : Cursor} {label : Label} {token : Token} {rest : List Token}

/-- An expression calls for its term and then for its tail. -/
theorem makes_expression {term : Term} (h : c.term = (.ok term, d)) :
    c.Makes .expression [(.term, c), (.sumTail, d)] where
  distinct := by simp
  made := by simp [Calls.expressionTerm, Calls.expressionTail h]
  complete := by
    intro label' d' calls
    cases calls with
    | expressionTerm => simp
    | expressionTail h' =>
      rw [h] at h'
      cases h'
      simp

/-- A term calls for its factor and then for its tail. -/
theorem makes_term {factor : Factor} (h : c.factor = (.ok factor, d)) :
    c.Makes .term [(.factor, c), (.productTail, d)] where
  distinct := by simp
  made := by simp [Calls.termFactor, Calls.termTail h]
  complete := by
    intro label' d' calls
    cases calls with
    | termFactor => simp
    | termTail h' =>
      rw [h] at h'
      cases h'
      simp

/-- The tail of a sum calls for nothing if it ends at once. -/
theorem makes_sumTail_end
    (ends : c.groupClosed = true ∨ ∀ token ∈ c.rest.head?, additive? token.kind = none) :
    c.Makes .sumTail [] where
  distinct := by simp
  made := by simp
  complete := by
    intro label' d' calls
    cases calls with
    | sumTerm flag next operator | sumTail flag next operator _ =>
      rcases ends with closed | none
      · rw [flag] at closed
        cases closed
      · rw [none _ (by rw [next]; rfl)] at operator
        cases operator

/-- The tail of a sum behind an operator calls for a term and then for a further tail. -/
theorem makes_sumTail_next {op : Additive} {term : Term} (flag : c.groupClosed = false)
    (next : c.rest = token :: rest) (operator : additive? token.kind = some op)
    (h : ({ c with rest } : Cursor).term = (.ok term, d)) :
    c.Makes .sumTail [(.term, { c with rest }), (.sumTail, d)] where
  distinct := by simp
  made := by simp [Calls.sumTerm flag next operator, Calls.sumTail flag next operator h]
  complete := by
    intro label' d' calls
    cases calls with
    | sumTerm _ next' _ =>
      rw [next] at next'
      cases next'
      simp
    | sumTail _ next' _ h' =>
      rw [next] at next'
      cases next'
      rw [h] at h'
      cases h'
      simp

/-- The tail of a product calls for nothing if it ends at once, with or without a `)`. -/
theorem makes_productTail_end
    (ends : c.groupClosed = true ∨ ∀ token ∈ c.rest.head?, multiplicative? token.kind = none) :
    c.Makes .productTail [] where
  distinct := by simp
  made := by simp
  complete := by
    intro label' d' calls
    cases calls with
    | productFactor flag next operator | productTail flag next operator _ =>
      rcases ends with closed | none
      · rw [flag] at closed
        cases closed
      · rw [none _ (by rw [next]; rfl)] at operator
        cases operator

/-- The tail of a product behind an operator calls for a factor and then for a further tail. -/
theorem makes_productTail_next {op : Multiplicative} {factor : Factor}
    (flag : c.groupClosed = false) (next : c.rest = token :: rest)
    (operator : multiplicative? token.kind = some op)
    (h : ({ c with rest } : Cursor).factor = (.ok factor, d)) :
    c.Makes .productTail [(.factor, { c with rest }), (.productTail, d)] where
  distinct := by simp
  made := by
    simp [Calls.productFactor flag next operator, Calls.productTail flag next operator h]
  complete := by
    intro label' d' calls
    cases calls with
    | productFactor _ next' _ =>
      rw [next] at next'
      cases next'
      simp
    | productTail _ next' _ h' =>
      rw [next] at next'
      cases next'
      rw [h] at h'
      cases h'
      simp

/-- A factor calls for what its first token announces, and for nothing else. -/
theorem Calls.of_factor (next : c.rest = token :: rest) (calls : c.Calls .factor label d) :
    (token.kind = .openParen ∧ label = .expression ∧
      d = { c with rest, openGroups := c.openGroups + 1 }) ∨
    (token.kind = .minus ∧ label = .factor ∧ d = { c with rest }) := by
  cases calls with
  | groupInner next' kind =>
    rw [next] at next'
    cases next'
    exact .inl ⟨kind, rfl, rfl⟩
  | negationOperand next' kind =>
    rw [next] at next'
    cases next'
    exact .inr ⟨kind, rfl, rfl⟩

/-- A group calls for the expression inside. -/
theorem makes_group (next : c.rest = token :: rest) (kind : token.kind = .openParen) :
    c.Makes .factor [(.expression, { c with rest, openGroups := c.openGroups + 1 })] where
  distinct := by simp
  made := by simp [Calls.groupInner next kind]
  complete := by
    intro label' d' calls
    rcases calls.of_factor next with ⟨-, rfl, rfl⟩ | ⟨minus, -⟩
    · exact List.mem_singleton_self _
    · rw [kind] at minus
      cases minus

/-- A negation calls for its operand. -/
theorem makes_negation (next : c.rest = token :: rest) (kind : token.kind = .minus) :
    c.Makes .factor [(.factor, { c with rest })] where
  distinct := by simp
  made := by simp [Calls.negationOperand next kind]
  complete := by
    intro label' d' calls
    rcases calls.of_factor next with ⟨paren, -⟩ | ⟨-, rfl, rfl⟩
    · rw [kind] at paren
      cases paren
    · exact List.mem_singleton_self _

/-- A number calls for nothing. -/
theorem makes_number (next : c.rest = token :: rest) (kind : token.kind = .number) :
    c.Makes .factor [] where
  distinct := by simp
  made := by simp
  complete := by
    intro label' d' calls
    rcases calls.of_factor next with ⟨other, -⟩ | ⟨other, -⟩
    · rw [kind] at other
      cases other
    · rw [kind] at other
      cases other

/-! ### Induction over the runs that succeed -/

/-- Induction over the runs of rules that succeed. The run of a rule makes a call for each subtree
of its tree, in order, and may use what is known of these calls and subtrees. -/
theorem runs_induction {motive : Cursor → Label → Tree → Prop}
    (run : ∀ {c label calls children}, c.Makes label calls →
      List.Forall₂ (fun call t => motive call.2 call.1 t) calls (Tree.node label children).subtrees →
      motive c label (.node label children))
    (c : Cursor) :
    (∀ e d, c.expression = (.ok e, d) → motive c .expression e.toTree) ∧
      (∀ e d, c.term = (.ok e, d) → motive c .term e.toTree) ∧
      (∀ e d, c.sumTail = (.ok e, d) → motive c .sumTail e.toTree) ∧
      (∀ e d, c.productTail = (.ok e, d) → motive c .productTail e.toTree) ∧
      (∀ e d, c.factor = (.ok e, d) → motive c .factor e.toTree) := by
  revert c
  refine rules_induction ?expression ?term ?sumTail ?productTail ?factor
  case expression =>
    intro c ihTerm ihTail e d h
    obtain ⟨term, c₁, tail, hTerm, hTail, rfl⟩ := expression_eq_ok.mp h
    rw [hTerm] at ihTail
    have first := ihTerm term c₁ hTerm
    have second := ihTail tail d hTail
    rw [Expression.toTree]
    exact run (makes_expression hTerm) (by simp [Tree.subtrees, Tree.children, first, second])
  case term =>
    intro c ihFactor ihTail e d h
    obtain ⟨factor, c₁, tail, hFactor, hTail, rfl⟩ := term_eq_ok.mp h
    rw [hFactor] at ihTail
    have first := ihFactor factor c₁ hFactor
    have second := ihTail tail d hTail
    rw [Term.toTree]
    exact run (makes_term hFactor) (by simp [Tree.subtrees, Tree.children, first, second])
  case sumTail =>
    intro c ih e d h
    obtain ⟨rfl, rfl, ends⟩ |
      ⟨flag, token, rest, op, term, c₁, tail, next, hOp, hTerm, hTail, rfl⟩ := sumTail_eq_ok.mp h
    · rw [SumTail.toTree]
      exact run (makes_sumTail_end ends) .nil
    · obtain ⟨ihTerm, ihTail⟩ := ih token rest next
      rw [hTerm] at ihTail
      have first := ihTerm term c₁ hTerm
      have second := ihTail tail d hTail
      rw [SumTail.toTree]
      exact run (makes_sumTail_next flag next hOp hTerm)
        (by simp [Tree.subtrees, Tree.children, first, second])
  case productTail =>
    intro c ih e d h
    obtain ⟨rfl, rfl, ends⟩ | ⟨rfl, flag, token, rest, n, next, kind, -, rfl⟩ |
      ⟨flag, token, rest, op, factor, c₁, tail, next, hOp, hFactor, hTail, rfl⟩ :=
      productTail_eq_ok.mp h
    · rw [ProductTail.toTree]
      exact run (makes_productTail_end (ends.imp_right fun none token first => (none token first).1))
        .nil
    · rw [ProductTail.toTree]
      refine run (makes_productTail_end (.inr fun token' first => ?_)) .nil
      rw [next] at first
      cases first
      rw [kind]
      rfl
    · obtain ⟨ihFactor, ihTail⟩ := ih token rest next
      rw [hFactor] at ihTail
      have first := ihFactor factor c₁ hFactor
      have second := ihTail tail d hTail
      rw [ProductTail.toTree]
      exact run (makes_productTail_next flag next hOp hFactor)
        (by simp [Tree.subtrees, Tree.children, first, second])
  case factor =>
    intro c ih e d h
    obtain ⟨token, rest, next, cases⟩ := factor_eq_ok.mp h
    obtain ⟨ihInner, ihOperand⟩ := ih token rest next
    obtain ⟨kind, inner, c₁, hInner, -, rfl, rfl⟩ | ⟨kind, operand, hOperand, rfl⟩ |
      ⟨kind, rfl, rfl⟩ := cases
    · have inside := ihInner inner c₁ hInner
      rw [Factor.toTree]
      exact run (makes_group next kind) (by simp [Tree.subtrees, Tree.children, inside])
    · have inside := ihOperand operand d hOperand
      rw [Factor.toTree]
      exact run (makes_negation next kind) (by simp [Tree.subtrees, Tree.children, inside])
    · rw [Factor.toTree]
      exact run (makes_number next kind) .nil

end Cursor

/-! ### The number of calls -/

/-- Leaves have no nodes. -/
theorem Tree.nodeCountOf_filter (ts : List Tree) :
    nodeCountOf (ts.filter isNode) = nodeCountOf ts := by
  induction ts with
  | nil => rfl
  | cons t ts ih => cases t <;> simp [nodeCountOf, nodeCount, List.filter_cons, ih]

namespace Cursor

variable {c : Cursor} {label : Label}

/-- `c.Leads label path`: in a run of the rule at `c`, each rule on the path is called by the one
before it, and the first by the run. The empty path stands for the run itself. -/
inductive Leads : Cursor → Label → List (Label × Cursor) → Prop where
  | run (c : Cursor) (label : Label) : Leads c label []
  | call {c d : Cursor} {label label' : Label} {path : List (Label × Cursor)}
      (calls : c.Calls label label' d) (leads : Leads d label' path) :
      Leads c label ((label', d) :: path)

/-- The number of calls of a run of the rule at `c`, itself and all those nested in it: a call is
one way down to it, since no rule calls the same rule twice. -/
def IsCallCount (c : Cursor) (label : Label) (count : Nat) : Prop :=
  {path | c.Leads label path}.encard = count

/-- The paths down from a run go through the calls that it makes. -/
theorem Makes.leads_iff {calls : List (Label × Cursor)} (makes : c.Makes label calls)
    {path : List (Label × Cursor)} :
    c.Leads label path ↔
      path = [] ∨ ∃ call ∈ calls, ∃ below, call.2.Leads call.1 below ∧ path = call :: below := by
  constructor
  · intro leads
    cases leads with
    | run => exact .inl rfl
    | call calls leads => exact .inr ⟨_, makes.complete calls, _, leads, rfl⟩
  · rintro (rfl | ⟨call, member, below, leads, rfl⟩)
    · exact .run c label
    · exact .call (makes.made call member) leads

/-- The paths that begin with one of several calls are as many as those of each call together. -/
theorem encard_leads {calls : List (Label × Cursor)} {ts : List Tree} (nodup : calls.Nodup)
    (counts : List.Forall₂ (fun call t => call.2.IsCallCount call.1 t.nodeCount) calls ts) :
    {path | ∃ call ∈ calls, ∃ below, call.2.Leads call.1 below ∧ path = call :: below}.encard =
      Tree.nodeCountOf ts := by
  induction counts with
  | nil => simp [Tree.nodeCountOf]
  | @cons call t calls ts count _ ih =>
    rw [List.nodup_cons] at nodup
    have split : {path | ∃ call' ∈ call :: calls, ∃ below,
        call'.2.Leads call'.1 below ∧ path = call' :: below} =
          List.cons call '' {below | call.2.Leads call.1 below} ∪
            {path | ∃ call' ∈ calls, ∃ below,
              call'.2.Leads call'.1 below ∧ path = call' :: below} := by
      ext path
      simp [eq_comm]
    have disjoint : Disjoint (List.cons call '' {below | call.2.Leads call.1 below})
        {path | ∃ call' ∈ calls, ∃ below,
          call'.2.Leads call'.1 below ∧ path = call' :: below} := by
      rw [Set.disjoint_left]
      rintro _ ⟨below, -, rfl⟩ ⟨call', member, _, -, same⟩
      cases same
      exact nodup.1 member
    rw [split, Set.encard_union_eq disjoint, List.cons_injective.encard_image, ih nodup.2, count,
      Tree.nodeCountOf, Nat.cast_add]

/-- **A run that succeeds makes as many calls as the tree of the result has nodes.** -/
theorem rules_callCount : ∀ c : Cursor,
    (∀ e d, c.expression = (.ok e, d) → c.IsCallCount .expression e.toTree.nodeCount) ∧
      (∀ e d, c.term = (.ok e, d) → c.IsCallCount .term e.toTree.nodeCount) ∧
      (∀ e d, c.sumTail = (.ok e, d) → c.IsCallCount .sumTail e.toTree.nodeCount) ∧
      (∀ e d, c.productTail = (.ok e, d) → c.IsCallCount .productTail e.toTree.nodeCount) ∧
      (∀ e d, c.factor = (.ok e, d) → c.IsCallCount .factor e.toTree.nodeCount) := by
  refine runs_induction (motive := fun c label t => c.IsCallCount label t.nodeCount)
    fun {c label calls children} makes counts => ?_
  have below := encard_leads (makes.distinct.of_map _) counts
  rw [Tree.subtrees, Tree.children, Tree.nodeCountOf_filter] at below
  have paths : {path | c.Leads label path} = insert [] {path | ∃ call ∈ calls, ∃ below,
      call.2.Leads call.1 below ∧ path = call :: below} := by
    ext path
    exact makes.leads_iff
  rw [IsCallCount, paths, Set.encard_insert_of_notMem (by simp), below, Tree.nodeCount,
    Nat.add_comm, Nat.cast_add, Nat.cast_one]

end Cursor

end Calculator
