import Calculator.Proofs.Grammar.Completeness

/-!
What a successful rule has taken.

A rule that succeeds has taken the tokens that spell the leaves of its result. A factor stops there.
The other rules may have gone one token further: the `)` of a group that was open at the start is
taken by the tail of a product inside, long before the factor it belongs to is finished. So there
are two ways to end, `Cursor.Takes` and `Cursor.Closes`, and the flag tells them apart. Behind a
closed group every tail is empty and takes nothing, which is why no rule closes two groups.

* `Cursor.rules_sound`: every rule that starts with the flag down and succeeds ends in one of the
  two ways, a factor in the first.
* `spells_of_parseTokens`: the tokens that are parsed spell the leaves of the result, all of them.
* `Tree.HasShape.spells_group`: where a tree holds a group, the tokens that spell the tree have a
  `(` and its matching `)`.
-/

namespace Calculator

/-! ### Two ways to end -/

/-- The tokens that spell the leaves have been taken, and nothing else has changed. -/
inductive Cursor.Takes (c : Cursor) (leaves : List Leaf) : Cursor → Prop where
  | intro (tokens rest : List Token) (taken : c.rest = tokens ++ rest)
      (spells : List.Forall₂ Token.Spells tokens leaves) : Takes c leaves { c with rest }

/-- The tokens that spell the leaves have been taken and one `)` behind them, which closes the
innermost open group. -/
inductive Cursor.Closes (c : Cursor) (leaves : List Leaf) : Cursor → Prop where
  | intro (tokens : List Token) (close : Token) (rest : List Token) (n : Nat)
      (taken : c.rest = tokens ++ close :: rest)
      (spells : List.Forall₂ Token.Spells tokens leaves)
      (kind : close.kind = .closeParen) (opened : c.openGroups = n + 1) :
      Closes c leaves { c with rest, openGroups := n, groupClosed := true }

/-- One of the two ways for a rule to end. -/
def Cursor.Ends (c : Cursor) (leaves : List Leaf) (d : Cursor) : Prop :=
  c.Takes leaves d ∨ c.Closes leaves d

namespace Cursor

variable {c d e : Cursor} {leaves more : List Leaf}

theorem takes_nil (c : Cursor) : c.Takes [] c := .intro [] c.rest rfl .nil

theorem takes_token {token : Token} {rest : List Token} {leaf : Leaf}
    (next : c.rest = token :: rest) (spells : token.Spells leaf) :
    c.Takes [leaf] { c with rest } :=
  .intro [token] rest next (.cons spells .nil)

theorem Takes.groupClosed_eq (h : c.Takes leaves d) : d.groupClosed = c.groupClosed := by
  cases h
  rfl

theorem Closes.groupClosed_eq (h : c.Closes leaves d) : d.groupClosed = true := by
  cases h
  rfl

theorem Takes.trans (h : c.Takes leaves d) (next : d.Takes more e) :
    c.Takes (leaves ++ more) e := by
  obtain ⟨first, _, taken, spells⟩ := h
  obtain ⟨second, rest, takenNext, spellsNext⟩ := next
  refine .intro (first ++ second) rest ?_ (List.rel_append spells spellsNext)
  rw [taken, List.append_assoc]
  exact congrArg (first ++ ·) takenNext

theorem Takes.closes (h : c.Takes leaves d) (next : d.Closes more e) :
    c.Closes (leaves ++ more) e := by
  obtain ⟨first, _, taken, spells⟩ := h
  obtain ⟨second, close, rest, n, takenNext, spellsNext, kind, opened⟩ := next
  refine .intro (first ++ second) close rest n ?_ (List.rel_append spells spellsNext) kind opened
  rw [taken, List.append_assoc]
  exact congrArg (first ++ ·) takenNext

theorem Takes.ends (h : c.Takes leaves d) (next : d.Ends more e) : c.Ends (leaves ++ more) e :=
  next.imp h.trans h.closes

/-- Behind a closed group the tail of a sum is empty. -/
theorem sumTail_of_groupClosed (closed : c.groupClosed = true) : c.sumTail = (.ok .empty, c) :=
  sumTail_eq_ok.mpr (.inl ⟨rfl, rfl, .inl closed⟩)

/-- Behind a closed group the tail of a product is empty. -/
theorem productTail_of_groupClosed (closed : c.groupClosed = true) :
    c.productTail = (.ok .empty, c) :=
  productTail_eq_ok.mpr (.inl ⟨rfl, rfl, .inl closed⟩)

/-- A part that ended, with a tail behind it that is sound at a lowered flag. At a raised flag the
tail is empty, so that what the part took is all that was taken. -/
theorem Ends.tail (h : c.Ends leaves d) (closed : d.groupClosed = true → more = [] ∧ e = d)
    (opened : d.groupClosed = c.groupClosed → d.Ends more e) : c.Ends (leaves ++ more) e := by
  rcases h with taken | taken
  · exact taken.ends (opened taken.groupClosed_eq)
  · obtain ⟨rfl, rfl⟩ := closed taken.groupClosed_eq
    rw [List.append_nil]
    exact .inr taken

theorem spells_of_additive? {token : Token} {op : Additive}
    (h : additive? token.kind = some op) : token.Spells (.operator op.operator) := by
  cases hKind : token.kind <;> simp only [hKind, additive?, reduceCtorEq, Option.some.injEq] at h
  all_goals subst h; exact Token.spells_of_kind hKind (by decide)

theorem spells_of_multiplicative? {token : Token} {op : Multiplicative}
    (h : multiplicative? token.kind = some op) : token.Spells (.operator op.operator) := by
  cases hKind : token.kind <;>
    simp only [hKind, multiplicative?, reduceCtorEq, Option.some.injEq] at h
  all_goals subst h; exact Token.spells_of_kind hKind (by decide)

/-- A `(` and, inside, an expression that ends by closing a group: the group closed is this one, so
with the flag lowered again nothing has changed but the tokens taken. -/
theorem takes_group {token : Token} {rest : List Token} {inner : Expression}
    (next : c.rest = token :: rest) (flag : c.groupClosed = false)
    (kind : token.kind = .openParen)
    (closes : ({ c with rest, openGroups := c.openGroups + 1 } : Cursor).Closes
      inner.toTree.leaves d) :
    c.Takes (Factor.group inner).toTree.leaves { d with groupClosed := false } := by
  obtain ⟨tokens, close, rest', n, taken, spells, kindClose, opened⟩ := closes
  obtain rfl : c.openGroups = n := Nat.succ.inj opened
  have spellsGroup : List.Forall₂ Token.Spells (token :: (tokens ++ [close]))
      (Factor.group inner).toTree.leaves := by
    rw [Factor.leaves_group]
    refine .cons (Token.spells_of_kind kind (by decide)) (List.rel_append spells ?_)
    exact .cons (Token.spells_of_kind kindClose (by decide)) .nil
  have takenGroup : c.rest = (token :: (tokens ++ [close])) ++ rest' := by
    rw [next, show rest = tokens ++ close :: rest' from taken]
    simp
  have same : ({ c with rest := rest', groupClosed := false } : Cursor) =
      { c with rest := rest' } := by
    rw [← flag]
  exact same ▸ .intro _ rest' takenGroup spellsGroup

/-! ### Soundness of the rules -/

/-- **Every rule that starts with the flag down and succeeds has taken the tokens of its result**,
and ends in one of the two ways; a factor has not closed a group that was open before it. -/
theorem rules_sound : ∀ c : Cursor,
    (c.groupClosed = false → ∀ e d, c.expression = (.ok e, d) → c.Ends e.toTree.leaves d) ∧
      (c.groupClosed = false → ∀ e d, c.term = (.ok e, d) → c.Ends e.toTree.leaves d) ∧
      (c.groupClosed = false → ∀ e d, c.sumTail = (.ok e, d) → c.Ends e.toTree.leaves d) ∧
      (c.groupClosed = false → ∀ e d, c.productTail = (.ok e, d) → c.Ends e.toTree.leaves d) ∧
      (c.groupClosed = false → ∀ e d, c.factor = (.ok e, d) → c.Takes e.toTree.leaves d) := by
  -- A tail that begins at a raised flag is the empty one.
  have sumTailClosed : ∀ {c₁ d : Cursor} {tail : SumTail}, c₁.sumTail = (.ok tail, d) →
      c₁.groupClosed = true → tail.toTree.leaves = [] ∧ d = c₁ := by
    intro c₁ d tail h closed
    rw [sumTail_of_groupClosed closed] at h
    cases h
    exact ⟨SumTail.leaves_empty, rfl⟩
  have productTailClosed : ∀ {c₁ d : Cursor} {tail : ProductTail},
      c₁.productTail = (.ok tail, d) → c₁.groupClosed = true →
      tail.toTree.leaves = [] ∧ d = c₁ := by
    intro c₁ d tail h closed
    rw [productTail_of_groupClosed closed] at h
    cases h
    exact ⟨ProductTail.leaves_empty, rfl⟩
  refine rules_induction ?expression ?term ?sumTail ?productTail ?factor
  case expression =>
    intro c ihTerm ihTail flag e d h
    obtain ⟨term, c₁, tail, hTerm, hTail, rfl⟩ := expression_eq_ok.mp h
    rw [hTerm] at ihTail
    rw [Expression.leaves_mk]
    exact (ihTerm flag term c₁ hTerm).tail (sumTailClosed hTail) fun same =>
      ihTail (same.trans flag) tail d hTail
  case term =>
    intro c ihFactor ihTail flag e d h
    obtain ⟨factor, c₁, tail, hFactor, hTail, rfl⟩ := term_eq_ok.mp h
    rw [hFactor] at ihTail
    rw [Term.leaves_mk]
    have taken := ihFactor flag factor c₁ hFactor
    exact taken.ends (ihTail (taken.groupClosed_eq.trans flag) tail d hTail)
  case sumTail =>
    intro c ih flag e d h
    obtain ⟨rfl, rfl, -⟩ | ⟨-, token, rest, op, term, c₁, tail, next, hOp, hTerm, hTail, rfl⟩ :=
      sumTail_eq_ok.mp h
    · rw [SumTail.leaves_empty]
      exact .inl (takes_nil _)
    · obtain ⟨ihTerm, ihTail⟩ := ih token rest next
      rw [hTerm] at ihTail
      rw [SumTail.leaves_next]
      have operator := takes_token next (spells_of_additive? hOp)
      refine operator.ends ((ihTerm flag term c₁ hTerm).tail (sumTailClosed hTail) fun same => ?_)
      exact ihTail (same.trans flag) tail d hTail
  case productTail =>
    intro c ih flag e d h
    obtain ⟨rfl, rfl, -⟩ | ⟨rfl, -, token, rest, n, next, kind, opened, rfl⟩ |
      ⟨-, token, rest, op, factor, c₁, tail, next, hOp, hFactor, hTail, rfl⟩ :=
      productTail_eq_ok.mp h
    · rw [ProductTail.leaves_empty]
      exact .inl (takes_nil _)
    · rw [ProductTail.leaves_empty]
      exact .inr (.intro [] token rest n next .nil kind opened)
    · obtain ⟨ihFactor, ihTail⟩ := ih token rest next
      rw [hFactor] at ihTail
      rw [ProductTail.leaves_next]
      have operator := takes_token next (spells_of_multiplicative? hOp)
      have taken := ihFactor flag factor c₁ hFactor
      exact operator.ends (taken.ends (ihTail (taken.groupClosed_eq.trans flag) tail d hTail))
  case factor =>
    intro c ih flag e d h
    obtain ⟨token, rest, next, cases⟩ := factor_eq_ok.mp h
    obtain ⟨ihInner, ihOperand⟩ := ih token rest next
    obtain ⟨kind, inner, c₁, hInner, closed, rfl, rfl⟩ | ⟨kind, operand, hOperand, rfl⟩ |
      ⟨kind, rfl, rfl⟩ := cases
    · -- The flag is up behind the inner expression, so it has taken the `)` of this very group.
      rcases ihInner flag inner c₁ hInner with taken | taken
      · rw [taken.groupClosed_eq, flag] at closed
        cases closed
      · exact takes_group next flag kind taken
    · rw [Factor.leaves_negation]
      have minus : c.Takes [.negation] { c with rest } :=
        takes_token next (Token.spells_of_kind kind (by decide))
      exact minus.trans (ihOperand flag operand d hOperand)
    · rw [Factor.leaves_number]
      exact takes_token next (Token.spells_number kind)

theorem expression_ends (flag : c.groupClosed = false) {e : Expression}
    (h : c.expression = (.ok e, d)) : c.Ends e.toTree.leaves d :=
  (rules_sound c).1 flag e d h

theorem term_ends (flag : c.groupClosed = false) {e : Term} (h : c.term = (.ok e, d)) :
    c.Ends e.toTree.leaves d :=
  (rules_sound c).2.1 flag e d h

theorem sumTail_ends (flag : c.groupClosed = false) {e : SumTail} (h : c.sumTail = (.ok e, d)) :
    c.Ends e.toTree.leaves d :=
  (rules_sound c).2.2.1 flag e d h

theorem productTail_ends (flag : c.groupClosed = false) {e : ProductTail}
    (h : c.productTail = (.ok e, d)) : c.Ends e.toTree.leaves d :=
  (rules_sound c).2.2.2.1 flag e d h

theorem factor_takes (flag : c.groupClosed = false) {e : Factor} (h : c.factor = (.ok e, d)) :
    c.Takes e.toTree.leaves d :=
  (rules_sound c).2.2.2.2 flag e d h

/-- Where no group is open there is none to close. -/
theorem Ends.takes (h : c.Ends leaves d) (opened : c.openGroups = 0) : c.Takes leaves d := by
  rcases h with taken | taken
  · exact taken
  · obtain ⟨_, _, _, n, _, _, _, some⟩ := taken
    rw [opened] at some
    cases some

end Cursor

/-- The tokens that parse spell the leaves of the result, all of them and in order. -/
theorem spells_of_parseTokens {tokens : List Token} {e : Expression}
    (h : parseTokens tokens = .ok e) : List.Forall₂ Token.Spells tokens e.toTree.leaves := by
  obtain ⟨d, hExpression, atEnd⟩ := parseTokens_eq_ok.mp h
  obtain ⟨first, rest, taken, spells⟩ := (Cursor.expression_ends rfl hExpression).takes rfl
  obtain rfl : rest = [] := atEnd
  rw [List.append_nil] at taken
  obtain rfl : tokens = first := taken
  exact spells

/-- Tokens parse to an expression exactly when they spell its leaves. -/
theorem parseTokens_eq_ok_iff_spells {tokens : List Token} {e : Expression} :
    parseTokens tokens = .ok e ↔ List.Forall₂ Token.Spells tokens e.toTree.leaves :=
  ⟨spells_of_parseTokens, parseTokens_of_spells⟩

/-! ### Groups inside a tree -/

/-- `t.Holds left sub right`: the tree `sub` is `t` or stands somewhere in `t`, with the leaves
`left` of `t` before its own and the leaves `right` behind them. -/
inductive Tree.Holds : Tree → List Leaf → Tree → List Leaf → Prop where
  | root (t : Tree) : Holds t [] t []
  | child (label : Label) (before after : List Tree) {t sub : Tree} {left right : List Leaf} :
      Holds t left sub right →
        Holds (.node label (before ++ t :: after)) (Tree.leavesOf before ++ left) sub
          (right ++ Tree.leavesOf after)

/-- The tree of a factor that is a group. -/
def Tree.groupOf (inner : Tree) : Tree := .node .factor [.leaf .openParen, inner, .leaf .closeParen]

namespace Tree

theorem leavesOf_append (ts us : List Tree) : leavesOf (ts ++ us) = leavesOf ts ++ leavesOf us := by
  induction ts with
  | nil => rfl
  | cons t ts ih => rw [List.cons_append, leavesOf, leavesOf, ih, List.append_assoc]

/-- A tree is read as what stands before a subtree, the subtree, and what stands behind it. -/
theorem Holds.leaves_eq {t sub : Tree} {left right : List Leaf} (h : t.Holds left sub right) :
    t.leaves = left ++ (sub.leaves ++ right) := by
  induction h with
  | root t => simp
  | child label before after _ ih => simp [leaves, leavesOf_append, leavesOf, ih]

theorem HasShape.label_eq {label label' : Label} {children : List Tree}
    (shape : (Tree.node label children).HasShape label') : label = label' := by
  cases shape <;> rfl

/-- The children of a tree in shape are leaves and trees in shape. -/
theorem HasShape.of_child {t u : Tree} {label : Label} (shape : t.HasShape label)
    (child : u ∈ t.children) : (∃ l, u = .leaf l) ∨ ∃ label', u.HasShape label' := by
  cases shape <;> simp only [children] at child <;> grind

/-- Every node inside a tree in shape is in shape. -/
theorem HasShape.of_holds {t sub : Tree} {left right : List Leaf} (h : t.Holds left sub right)
    {label label' : Label} {below : List Tree} (shape : t.HasShape label)
    (node : sub = .node label' below) : sub.HasShape label' := by
  induction h generalizing label with
  | root t =>
    subst node
    exact shape.label_eq ▸ shape
  | child _ before after inside ih =>
    rcases shape.of_child (List.mem_append_right _ List.mem_cons_self) with ⟨l, rfl⟩ | ⟨_, shape⟩
    · cases inside
      cases node
    · exact ih shape node

/-- What stands inside a group of a tree in shape is the tree of an expression. -/
theorem HasShape.inner_of_holds {t inner : Tree} {left right : List Leaf} {label : Label}
    (shape : t.HasShape label) (h : t.Holds left (groupOf inner) right) :
    ∃ e : Expression, e.toTree = inner := by
  have group : (groupOf inner).HasShape .factor := HasShape.of_holds h shape rfl
  cases group with
  | group inside => exact inside.isTyped

end Tree

/-- **Where a tree in shape holds a group, its tokens have a `(` and the `)` that matches it.** -/
theorem Tree.HasShape.spells_group {t inner : Tree} {left right : List Leaf} {label : Label}
    {tokens : List Token} (shape : t.HasShape label) (h : t.Holds left (groupOf inner) right)
    (spells : List.Forall₂ Token.Spells tokens t.leaves) :
    ∃ before opening between closing after,
      tokens = before ++ opening :: (between ++ closing :: after) ∧
        List.Forall₂ Token.Spells before left ∧
        List.Forall₂ Token.Spells between inner.leaves ∧
        List.Forall₂ Token.Spells after right ∧
        opening.kind = .openParen ∧ closing.kind = .closeParen ∧
        Kind.Balanced (between.map Token.kind) := by
  obtain ⟨e, rfl⟩ := shape.inner_of_holds h
  have leaves : t.leaves =
      left ++ .openParen :: (e.toTree.leaves ++ .closeParen :: right) := by
    rw [h.leaves_eq]
    simp [Tree.groupOf, Tree.leaves, Tree.leavesOf]
  rw [leaves] at spells
  obtain ⟨before, _, rfl, spellsBefore, spells⟩ := exists_append_of_spells spells
  cases spells with
  | @cons opening _ _ _ spellsOpen spells =>
    obtain ⟨between, _, rfl, spellsBetween, spells⟩ := exists_append_of_spells spells
    cases spells with
    | @cons closing _ after _ spellsClose spellsAfter =>
      refine ⟨before, opening, between, closing, after, rfl, spellsBefore, spellsBetween,
        spellsAfter, spellsOpen.1, spellsClose.1, ?_⟩
      rw [Kind.Balanced, map_kind_of_spells spellsBetween]
      exact e.depthAfter_leaves 0

/-! ### Soundness of the parser -/

/-- **The parser is sound.** Tokens that parse are the leaves of a tree in the shape of an
expression, one token for each leaf and in order; and where the tree has a group, its `)` is the
token that matches its `(`, whichever tail has taken it. -/
theorem parseTokens_sound {tokens : List Token} {e : Expression}
    (h : parseTokens tokens = .ok e) :
    e.toTree.HasShape .expression ∧
      List.Forall₂ Token.Spells tokens e.toTree.leaves ∧
      ∀ left inner right, e.toTree.Holds left (Tree.groupOf inner) right →
        ∃ before opening between closing after,
          tokens = before ++ opening :: (between ++ closing :: after) ∧
            List.Forall₂ Token.Spells before left ∧
            List.Forall₂ Token.Spells between inner.leaves ∧
            List.Forall₂ Token.Spells after right ∧
            opening.kind = .openParen ∧ closing.kind = .closeParen ∧
            Kind.Balanced (between.map Token.kind) := by
  have shape := e.hasShape_toTree
  have spells := spells_of_parseTokens h
  exact ⟨shape, spells, fun left inner right holds => shape.spells_group holds spells⟩

/-- The tokens of `2*-((3))`: each `)` is taken inside the group that it closes. -/
theorem parseTokens_sound_nested_groups :
    let tokens : List Token :=
      [⟨.number, "2", ⟨0, 1⟩⟩, ⟨.star, "*", ⟨1, 1⟩⟩, ⟨.minus, "-", ⟨2, 1⟩⟩,
        ⟨.openParen, "(", ⟨3, 1⟩⟩, ⟨.openParen, "(", ⟨4, 1⟩⟩, ⟨.number, "3", ⟨5, 1⟩⟩,
        ⟨.closeParen, ")", ⟨6, 1⟩⟩, ⟨.closeParen, ")", ⟨7, 1⟩⟩]
    let group (inner : Factor) : Factor := .group (.mk (.mk inner .empty) .empty)
    let e : Expression :=
      .mk (.mk (.number "2") (.next .times (.negation (group (group (.number "3")))) .empty)) .empty
    parseTokens tokens = .ok e ∧ e.toTree.HasShape .expression ∧
      List.Forall₂ Token.Spells tokens e.toTree.leaves := by
  intro tokens group e
  have parsed : parseTokens tokens = .ok e := parseTokens_of_spells (by decide)
  exact ⟨parsed, (parseTokens_sound parsed).1, (parseTokens_sound parsed).2.1⟩

end Calculator
