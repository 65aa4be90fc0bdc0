import Calculator.Grammar.Parsing

/-!
Reasoning about the rules of the parser.

The five rules call each other on cursors that have fewer tokens left, or as many and a simpler
rule. That argument is made once here, as an induction principle, and so is the case analysis of a
rule that succeeds. What is proved about parsing elsewhere uses these and never opens a rule.

* `Cursor.rules_induction`: what holds of a rule if it holds of the rules that it calls, holds.
* `Cursor.expression_eq_ok` and its like: all the ways a rule can succeed, and what each takes.
* `parseTokens_eq_ok`: when tokens parse.
-/

namespace Calculator

namespace Cursor

/-! ### Induction over the rules -/

/-- Induction over the rules of the grammar. Each rule may use what is known of the rules it calls,
at the cursors where it calls them: `E`, `T`, `A`, `B`, `F` are about an expression, a term, the
tail of a sum, the tail of a product and a factor. -/
theorem rules_induction {E T A B F : Cursor → Prop}
    (expression : ∀ c, T c → A c.term.2 → E c)
    (term : ∀ c, F c → B c.factor.2 → T c)
    (sumTail : ∀ c, (∀ token rest, c.rest = token :: rest →
      T { c with rest } ∧ A ({ c with rest } : Cursor).term.2) → A c)
    (productTail : ∀ c, (∀ token rest, c.rest = token :: rest →
      F { c with rest } ∧ B ({ c with rest } : Cursor).factor.2) → B c)
    (factor : ∀ c, (∀ token rest, c.rest = token :: rest →
      E { c with rest, openGroups := c.openGroups + 1 } ∧ F { c with rest }) → F c)
    (c : Cursor) : E c ∧ T c ∧ A c ∧ B c ∧ F c := by
  suffices below : ∀ n, ∀ d : Cursor, d.rest.length < n → E d ∧ T d ∧ A d ∧ B d ∧ F d from
    below _ c (Nat.lt_succ_self _)
  intro n
  induction n with
  | zero => intro d h; exact absurd h (Nat.not_lt_zero _)
  | succ n ih =>
    have shorter : ∀ {d : Cursor} {token rest}, d.rest.length < n + 1 → d.rest = token :: rest →
        rest.length < n := by
      intro d token rest hd hrest
      rw [hrest, List.length_cons] at hd
      exact Nat.lt_of_succ_lt_succ hd
    have factorAt : ∀ d : Cursor, d.rest.length < n + 1 → F d := by
      intro d hd
      refine factor d fun token rest hrest => ?_
      have hlt := shorter hd hrest
      exact ⟨(ih _ hlt).1, (ih _ hlt).2.2.2.2⟩
    have productTailAt : ∀ d : Cursor, d.rest.length < n + 1 → B d := by
      intro d hd
      refine productTail d fun token rest hrest => ?_
      have hlt := shorter hd hrest
      have hnext := Nat.lt_of_le_of_lt (factor_rest_le { d with rest }) hlt
      exact ⟨(ih _ hlt).2.2.2.2, (ih _ hnext).2.2.2.1⟩
    have sumTailAt : ∀ d : Cursor, d.rest.length < n + 1 → A d := by
      intro d hd
      refine sumTail d fun token rest hrest => ?_
      have hlt := shorter hd hrest
      have hnext := Nat.lt_of_le_of_lt (term_rest_le { d with rest }) hlt
      exact ⟨(ih _ hlt).2.1, (ih _ hnext).2.2.1⟩
    have termAt : ∀ d : Cursor, d.rest.length < n + 1 → T d := fun d hd =>
      term d (factorAt d hd) (productTailAt _ (Nat.lt_of_le_of_lt (factor_rest_le d) hd))
    intro d hd
    exact ⟨expression d (termAt d hd) (sumTailAt _ (Nat.lt_of_le_of_lt (term_rest_le d) hd)),
      termAt d hd, sumTailAt d hd, productTailAt d hd, factorAt d hd⟩

/-! ### Rules that succeed -/

/-- An outcome with a function applied to its result is a success if the outcome was one. -/
theorem map_outcome_eq_ok {α β : Type} {f : α → β} {r : Except ParseError α × Cursor} {b : β}
    {d : Cursor} : (r.1.map f = .ok b ∧ r.2 = d) ↔ ∃ a, r = (.ok a, d) ∧ b = f a := by
  rcases r with ⟨_ | a, c⟩
  · simp [Except.map]
  · simp only [Except.map, Prod.mk.injEq, Except.ok.injEq]
    constructor
    · rintro ⟨rfl, rfl⟩
      exact ⟨a, ⟨rfl, rfl⟩, rfl⟩
    · rintro ⟨_, ⟨rfl, rfl⟩, rfl⟩
      exact ⟨rfl, rfl⟩

/-- An expression succeeds if its term and then its tail do. -/
theorem expression_eq_ok {c d : Cursor} {e : Expression} :
    c.expression = (.ok e, d) ↔
      ∃ term c₁ tail, c.term = (.ok term, c₁) ∧ c₁.sumTail = (.ok tail, d) ∧
        e = .mk term tail := by
  rw [expression_eq]
  rcases c.term with ⟨_ | term, c₁⟩
  · simp
  · simp [map_outcome_eq_ok, and_assoc]

/-- A term succeeds if its factor and then its tail do. -/
theorem term_eq_ok {c d : Cursor} {e : Term} :
    c.term = (.ok e, d) ↔
      ∃ factor c₁ tail, c.factor = (.ok factor, c₁) ∧ c₁.productTail = (.ok tail, d) ∧
        e = .mk factor tail := by
  rw [term_eq]
  rcases c.factor with ⟨_ | factor, c₁⟩
  · simp
  · simp [map_outcome_eq_ok, and_assoc]

/-- The tail of a sum succeeds empty, behind a closed group or before a token that begins none, or
with an operator, a term and a further tail. -/
theorem sumTail_eq_ok {c d : Cursor} {e : SumTail} :
    c.sumTail = (.ok e, d) ↔
      (e = .empty ∧ d = c ∧
        (c.groupClosed = true ∨ ∀ token ∈ c.rest.head?, additive? token.kind = none)) ∨
      (c.groupClosed = false ∧ ∃ token rest op term c₁ tail, c.rest = token :: rest ∧
        additive? token.kind = some op ∧ ({ c with rest } : Cursor).term = (.ok term, c₁) ∧
        c₁.sumTail = (.ok tail, d) ∧ e = .next op term tail) := by
  rw [sumTail_eq]
  rcases c with ⟨_ | ⟨token, rest⟩, stop, openGroups, _ | _⟩
  · simp [eq_comm]
  · simp [eq_comm]
  · cases hOp : additive? token.kind with
    | none => simp [hOp, eq_comm, and_assoc]
    | some op =>
      rcases hTerm : (⟨rest, stop, openGroups, false⟩ : Cursor).term with ⟨_ | term, c₁⟩
      · simp [hOp, hTerm, and_assoc]
      · simp [hOp, hTerm, map_outcome_eq_ok, and_assoc]
  · simp [eq_comm]

/-- The tail of a product succeeds empty, behind a closed group or before a token that begins none,
empty with the `)` of the innermost open group, or with an operator, a factor and a further tail. -/
theorem productTail_eq_ok {c d : Cursor} {e : ProductTail} :
    c.productTail = (.ok e, d) ↔
      (e = .empty ∧ d = c ∧
        (c.groupClosed = true ∨
          ∀ token ∈ c.rest.head?, multiplicative? token.kind = none ∧ token.kind ≠ .closeParen)) ∨
      (e = .empty ∧ c.groupClosed = false ∧ ∃ token rest n, c.rest = token :: rest ∧
        token.kind = .closeParen ∧ c.openGroups = n + 1 ∧
        d = { c with rest, openGroups := n, groupClosed := true }) ∨
      (c.groupClosed = false ∧ ∃ token rest op factor c₁ tail, c.rest = token :: rest ∧
        multiplicative? token.kind = some op ∧
        ({ c with rest } : Cursor).factor = (.ok factor, c₁) ∧
        c₁.productTail = (.ok tail, d) ∧ e = .next op factor tail) := by
  rw [productTail_eq]
  rcases c with ⟨_ | ⟨token, rest⟩, stop, openGroups, _ | _⟩
  · simp [eq_comm]
  · simp [eq_comm]
  · cases hOp : multiplicative? token.kind with
    | none =>
      by_cases hClose : token.kind = .closeParen
      · cases openGroups with
        | zero => simp [hClose, multiplicative?, and_assoc]
        | succ n => simp [hClose, multiplicative?, eq_comm, and_assoc]
      · simp [hOp, hClose, Ne.symm hClose, eq_comm, and_assoc]
    | some op =>
      have hClose : token.kind ≠ .closeParen := by
        intro h
        simp [h, multiplicative?] at hOp
      rcases hFactor : (⟨rest, stop, openGroups, false⟩ : Cursor).factor with ⟨_ | factor, c₁⟩
      · simp [hOp, hFactor, hClose, and_assoc]
      · simp [hOp, hFactor, hClose, map_outcome_eq_ok, and_assoc]
  · simp [eq_comm]

/-- A factor succeeds with a group whose `)` the expression inside has taken, with a negation or
with a number. -/
theorem factor_eq_ok {c d : Cursor} {e : Factor} :
    c.factor = (.ok e, d) ↔
      ∃ token rest, c.rest = token :: rest ∧
        ((token.kind = .openParen ∧ ∃ inner c₁,
            ({ c with rest, openGroups := c.openGroups + 1 } : Cursor).expression =
              (.ok inner, c₁) ∧
            c₁.groupClosed = true ∧ e = .group inner ∧ d = { c₁ with groupClosed := false }) ∨
          (token.kind = .minus ∧ ∃ operand,
            ({ c with rest } : Cursor).factor = (.ok operand, d) ∧ e = .negation operand) ∨
          (token.kind = .number ∧ e = .number token.text ∧ d = { c with rest })) := by
  rw [factor_eq]
  rcases c with ⟨_ | ⟨token, rest⟩, stop, openGroups, groupClosed⟩
  · simp
  · cases hKind : token.kind with
    | openParen =>
      rcases hInner : (⟨rest, stop, openGroups + 1, groupClosed⟩ : Cursor).expression with
        ⟨_ | inner, c₁⟩
      · simp [hKind, hInner, and_assoc]
      · cases hClosed : c₁.groupClosed with
        | true => simp [hKind, hInner, hClosed, @eq_comm _ d, @eq_comm _ e, and_assoc]
        | false => simp [hKind, hInner, hClosed, and_assoc]
    | minus => simp [hKind, map_outcome_eq_ok, and_assoc]
    | number => simp [hKind, @eq_comm _ d, @eq_comm _ e, and_assoc]
    | plus | star | slash | closeParen | unrecognized => simp [hKind, and_assoc]

end Cursor

/-- Tokens parse if the rule of an expression succeeds on them and leaves none. -/
theorem parseTokens_eq_ok {tokens : List Token} {e : Expression} :
    parseTokens tokens = .ok e ↔
      ∃ d, (Cursor.ofTokens tokens).expression = (.ok e, d) ∧ d.rest = [] := by
  unfold parseTokens
  rcases (Cursor.ofTokens tokens).expression with ⟨_ | found, c⟩
  · simp
  · rcases c with ⟨_ | ⟨token, rest⟩, stop, openGroups, groupClosed⟩
    · constructor
      · rintro ⟨⟩
        exact ⟨_, rfl, rfl⟩
      · rintro ⟨d, ⟨⟩, -⟩
        rfl
    · constructor
      · rintro ⟨⟩
      · rintro ⟨d, ⟨⟩, atEnd⟩
        cases atEnd

end Calculator
