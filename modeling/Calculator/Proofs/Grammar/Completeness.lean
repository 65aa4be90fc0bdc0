import Calculator.Proofs.Grammar.Rules
import Calculator.Proofs.Grammar.Spelling

/-!
What the rules do on tokens that spell an expression.

Each rule is run on tokens that spell the leaves of one of its expressions, with more tokens behind
them. It yields that expression and stops behind its tokens, if what comes next cannot continue it:
`Cursor.ProductEnds` and `Cursor.SumEnds` say when that is so. All rules but the factor then take
the `)` that comes next, if a group is open; that is `Cursor.closing`. A factor ends with a token of
its own and asks nothing of what comes next.

* `complete_expression` and its like: the rules find the expression that the tokens spell.
* `parseTokens_of_spells`: the tokens of an expression parse to that expression.
-/

namespace Calculator

namespace Cursor

variable {c : Cursor} {tokens rest : List Token}

/-! ### What ends a sum or a product -/

/-- Takes the `)` that comes next for the innermost open group, if there are both. -/
def closing (c : Cursor) : Cursor :=
  match c.rest, c.openGroups with
  | token :: rest, n + 1 =>
    if token.kind = .closeParen then { c with rest, openGroups := n, groupClosed := true } else c
  | _, _ => c

/-- What comes next does not continue a product, and it is no `)` unless a group is open. -/
def ProductEnds (c : Cursor) : Prop :=
  ∀ token ∈ c.rest.head?,
    multiplicative? token.kind = none ∧ (token.kind = .closeParen → c.openGroups ≠ 0)

/-- What comes next continues neither a product nor a sum, and it is no `)` unless a group is
open. -/
def SumEnds (c : Cursor) : Prop :=
  c.ProductEnds ∧ ∀ token ∈ c.rest.head?, additive? token.kind = none

/-- Where no `)` comes next there is nothing to close. -/
theorem closing_eq_self (h : ∀ token ∈ c.rest.head?, token.kind ≠ .closeParen) :
    c.closing = c := by
  unfold closing
  split
  · next token rest n next _ => rw [if_neg (h token (by simp [next]))]
  · rfl

theorem closing_of_closeParen {token : Token} {n : Nat} (next : c.rest = token :: rest)
    (kind : token.kind = .closeParen) (opened : c.openGroups = n + 1) :
    c.closing = { c with rest, openGroups := n, groupClosed := true } := by
  simp [closing, next, kind, opened]

/-- At the end of a product, either no `)` comes next and there is nothing to close, or the `)` that
comes next closes a group. -/
theorem ProductEnds.closing_cases (ends : c.ProductEnds) :
    (c.closing = c ∧ ∀ token ∈ c.rest.head?, token.kind ≠ .closeParen) ∨
      ∃ token rest n, c.rest = token :: rest ∧ token.kind = .closeParen ∧ c.openGroups = n + 1 ∧
        c.closing = { c with rest, openGroups := n, groupClosed := true } := by
  by_cases hClose : ∃ token ∈ c.rest.head?, token.kind = .closeParen
  · obtain ⟨token, next, kind⟩ := hClose
    obtain ⟨rest, taken⟩ := List.head?_eq_some_iff.mp next
    obtain ⟨n, opened⟩ := Nat.exists_eq_succ_of_ne_zero ((ends token next).2 kind)
    exact .inr ⟨token, rest, n, taken, kind, opened, closing_of_closeParen taken kind opened⟩
  · have none : ∀ token ∈ c.rest.head?, token.kind ≠ .closeParen := by
      intro token next kind
      exact hClose ⟨token, next, kind⟩
    exact .inl ⟨closing_eq_self none, none⟩

/-- The tail of a product that meets its end is empty and closes the open group. -/
theorem productTail_of_productEnds (flag : c.groupClosed = false) (ends : c.ProductEnds) :
    c.productTail = (.ok .empty, c.closing) := by
  apply productTail_eq_ok.mpr
  obtain ⟨same, none⟩ | ⟨token, rest, n, next, kind, opened, closed⟩ := ends.closing_cases
  · exact .inl ⟨rfl, same, .inr fun token next => ⟨(ends token next).1, none token next⟩⟩
  · exact .inr (.inl ⟨rfl, flag, token, rest, n, next, kind, opened, closed⟩)

/-- The tail of a sum that comes behind a closed group or meets its end is empty. -/
theorem sumTail_of_sumEnds (ends : c.SumEnds) : c.closing.sumTail = (.ok .empty, c.closing) := by
  apply sumTail_eq_ok.mpr
  refine .inl ⟨rfl, rfl, ?_⟩
  obtain ⟨same, -⟩ | ⟨token, rest, n, -, -, -, closed⟩ := ends.1.closing_cases
  · rw [same]
    exact .inr ends.2
  · rw [closed]
    exact .inl rfl

/-- The end of the tokens ends a sum. -/
theorem sumEnds_of_atEnd (atEnd : c.rest = []) : c.SumEnds := by
  constructor <;> intro token head <;> rw [atEnd] at head <;> cases head

/-- At the end of the tokens there is nothing to close. -/
theorem closing_of_atEnd (atEnd : c.rest = []) : c.closing = c := by
  refine closing_eq_self fun token head => ?_
  rw [atEnd] at head
  cases head

/-! ### Operators -/

theorem additive?_of_spells {token : Token} {op : Additive}
    (spells : token.Spells (.operator op.operator)) : additive? token.kind = some op := by
  rw [spells.1]
  cases op <;> rfl

theorem multiplicative?_of_spells {token : Token} {op : Multiplicative}
    (spells : token.Spells (.operator op.operator)) : multiplicative? token.kind = some op := by
  rw [spells.1]
  cases op <;> rfl

/-- Where the operator of a sum comes next, no `)` does. -/
theorem not_closeParen_of_additive {token : Token} {op : Additive}
    (next : c.rest = token :: rest) (spells : token.Spells (.operator op.operator)) :
    ∀ token ∈ c.rest.head?, token.kind ≠ .closeParen := by
  intro token' head
  rw [next, List.head?_cons, Option.mem_some_iff] at head
  subst head
  rw [spells.1]
  cases op <;> decide

/-- The operator of a sum ends a product. -/
theorem productEnds_of_additive {token : Token} {op : Additive} (next : c.rest = token :: rest)
    (spells : token.Spells (.operator op.operator)) : c.ProductEnds := by
  intro token' head
  refine ⟨?_, fun kind => absurd kind (not_closeParen_of_additive next spells token' head)⟩
  rw [next, List.head?_cons, Option.mem_some_iff] at head
  subst head
  rw [spells.1]
  cases op <;> rfl

/-- The `)` of an open group ends a sum. -/
theorem sumEnds_of_closeParen {token : Token} {n : Nat} (next : c.rest = token :: rest)
    (kind : token.kind = .closeParen) (opened : c.openGroups = n + 1) : c.SumEnds := by
  constructor <;> intro token' head <;>
    rw [next, List.head?_cons, Option.mem_some_iff] at head <;> subst head
  · rw [kind, opened]
    exact ⟨rfl, fun _ => Nat.succ_ne_zero n⟩
  · rw [kind]
    rfl

/-- The tail of a sum, or what comes behind it, ends a product. -/
theorem productEnds_of_sumTail (tail : SumTail) (next : c.rest = tokens ++ rest)
    (spells : List.Forall₂ Token.Spells tokens tail.toTree.leaves)
    (ends : ({ c with rest } : Cursor).SumEnds) : c.ProductEnds := by
  cases tail with
  | empty =>
    rw [SumTail.leaves_empty, List.forall₂_nil_right_iff] at spells
    subst spells
    obtain rfl : c.rest = rest := next
    exact ends.1
  | next op term tail =>
    rw [SumTail.leaves_next] at spells
    cases spells with
    | cons spells _ => exact productEnds_of_additive next spells

end Cursor

/-! ### Completeness of the rules -/

mutual

/-- The rule of an expression finds the expression that the tokens spell. -/
theorem complete_expression : ∀ (e : Expression) {c : Cursor} {tokens rest : List Token},
    c.groupClosed = false → c.rest = tokens ++ rest →
    List.Forall₂ Token.Spells tokens e.toTree.leaves → ({ c with rest } : Cursor).SumEnds →
    c.expression = (.ok e, ({ c with rest } : Cursor).closing)
  | .mk term tail, c, tokens, rest, flag, next, spells, ends => by
    rw [Expression.leaves_mk] at spells
    obtain ⟨first, second, rfl, spellsTerm, spellsTail⟩ := exists_append_of_spells spells
    rw [List.append_assoc] at next
    have hTerm := complete_term term flag next spellsTerm
      (Cursor.productEnds_of_sumTail tail rfl spellsTail ends)
    have hTail := complete_sumTail tail (c := { c with rest := second ++ rest }) flag rfl
      spellsTail ends
    exact Cursor.expression_eq_ok.mpr ⟨term, _, tail, hTerm, hTail, rfl⟩

/-- The rule of a term finds the term that the tokens spell. -/
theorem complete_term : ∀ (e : Term) {c : Cursor} {tokens rest : List Token},
    c.groupClosed = false → c.rest = tokens ++ rest →
    List.Forall₂ Token.Spells tokens e.toTree.leaves → ({ c with rest } : Cursor).ProductEnds →
    c.term = (.ok e, ({ c with rest } : Cursor).closing)
  | .mk factor tail, c, tokens, rest, flag, next, spells, ends => by
    rw [Term.leaves_mk] at spells
    obtain ⟨first, second, rfl, spellsFactor, spellsTail⟩ := exists_append_of_spells spells
    rw [List.append_assoc] at next
    have hFactor := complete_factor factor flag next spellsFactor
    have hTail := complete_productTail tail (c := { c with rest := second ++ rest }) flag rfl
      spellsTail ends
    exact Cursor.term_eq_ok.mpr ⟨factor, _, tail, hFactor, hTail, rfl⟩

/-- The rule of the tail of a sum, which starts where a term has ended, finds the tail that the
tokens spell. -/
theorem complete_sumTail : ∀ (e : SumTail) {c : Cursor} {tokens rest : List Token},
    c.groupClosed = false → c.rest = tokens ++ rest →
    List.Forall₂ Token.Spells tokens e.toTree.leaves → ({ c with rest } : Cursor).SumEnds →
    c.closing.sumTail = (.ok e, ({ c with rest } : Cursor).closing)
  | .empty, c, tokens, rest, flag, next, spells, ends => by
    rw [SumTail.leaves_empty, List.forall₂_nil_right_iff] at spells
    subst spells
    obtain rfl : c.rest = rest := next
    exact Cursor.sumTail_of_sumEnds ends
  | .next op term tail, c, tokens, rest, flag, next, spells, ends => by
    rw [SumTail.leaves_next] at spells
    cases spells with
    | @cons token _ following _ spellsOp spells =>
      obtain ⟨first, second, rfl, spellsTerm, spellsTail⟩ := exists_append_of_spells spells
      rw [List.cons_append, List.append_assoc] at next
      have same := Cursor.closing_eq_self (Cursor.not_closeParen_of_additive next spellsOp)
      have hTerm := complete_term term (c := { c with rest := first ++ (second ++ rest) }) flag
        rfl spellsTerm (Cursor.productEnds_of_sumTail tail rfl spellsTail ends)
      have hTail := complete_sumTail tail (c := { c with rest := second ++ rest }) flag rfl
        spellsTail ends
      rw [same]
      exact Cursor.sumTail_eq_ok.mpr (.inr ⟨flag, token, _, op, term, _, tail, next,
        Cursor.additive?_of_spells spellsOp, hTerm, hTail, rfl⟩)

/-- The rule of the tail of a product finds the tail that the tokens spell. -/
theorem complete_productTail : ∀ (e : ProductTail) {c : Cursor} {tokens rest : List Token},
    c.groupClosed = false → c.rest = tokens ++ rest →
    List.Forall₂ Token.Spells tokens e.toTree.leaves → ({ c with rest } : Cursor).ProductEnds →
    c.productTail = (.ok e, ({ c with rest } : Cursor).closing)
  | .empty, c, tokens, rest, flag, next, spells, ends => by
    rw [ProductTail.leaves_empty, List.forall₂_nil_right_iff] at spells
    subst spells
    obtain rfl : c.rest = rest := next
    exact Cursor.productTail_of_productEnds flag ends
  | .next op factor tail, c, tokens, rest, flag, next, spells, ends => by
    rw [ProductTail.leaves_next] at spells
    cases spells with
    | @cons token _ following _ spellsOp spells =>
      obtain ⟨first, second, rfl, spellsFactor, spellsTail⟩ := exists_append_of_spells spells
      rw [List.cons_append, List.append_assoc] at next
      have hFactor := complete_factor factor (c := { c with rest := first ++ (second ++ rest) })
        flag rfl spellsFactor
      have hTail := complete_productTail tail (c := { c with rest := second ++ rest }) flag rfl
        spellsTail ends
      exact Cursor.productTail_eq_ok.mpr (.inr (.inr ⟨flag, token, _, op, factor, _, tail, next,
        Cursor.multiplicative?_of_spells spellsOp, hFactor, hTail, rfl⟩))

/-- The rule of a factor finds the factor that the tokens spell, whatever comes behind them. -/
theorem complete_factor : ∀ (e : Factor) {c : Cursor} {tokens rest : List Token},
    c.groupClosed = false → c.rest = tokens ++ rest →
    List.Forall₂ Token.Spells tokens e.toTree.leaves → c.factor = (.ok e, { c with rest })
  | .group inner, c, tokens, rest, flag, next, spells => by
    rw [Factor.leaves_group] at spells
    cases spells with
    | @cons token _ following _ spellsOpen spells =>
      obtain ⟨middle, last, rfl, spellsInner, spellsLast⟩ := exists_append_of_spells spells
      cases spellsLast with
      | @cons close _ _ _ spellsClose nothing =>
        cases nothing
        rw [List.cons_append, List.append_assoc] at next
        -- One more group is open inside, and the `)` behind the inner tokens closes it.
        let inside : Cursor :=
          { c with rest := middle ++ close :: rest, openGroups := c.openGroups + 1 }
        let behind : Cursor := { inside with rest := close :: rest }
        have hInner := complete_expression inner (c := inside) flag rfl spellsInner
          (Cursor.sumEnds_of_closeParen (c := behind) rfl spellsClose.1 rfl)
        rw [Cursor.closing_of_closeParen (c := behind) rfl spellsClose.1 rfl] at hInner
        refine Cursor.factor_eq_ok.mpr ⟨token, middle ++ close :: rest, next,
          .inl ⟨spellsOpen.1, inner, _, hInner, rfl, rfl, ?_⟩⟩
        rw [← flag]
  | .negation operand, c, tokens, rest, flag, next, spells => by
    rw [Factor.leaves_negation] at spells
    cases spells with
    | @cons token _ following _ spellsMinus spells =>
      have hOperand := complete_factor operand (c := { c with rest := following ++ rest }) flag
        rfl spells
      exact Cursor.factor_eq_ok.mpr ⟨token, _, next,
        .inr (.inl ⟨spellsMinus.1, operand, hOperand, rfl⟩)⟩
  | .number text, c, tokens, rest, flag, next, spells => by
    rw [Factor.leaves_number] at spells
    cases spells with
    | @cons token _ following _ spellsNumber spells =>
      cases spells
      obtain rfl : token.text = text := spellsNumber.2 text rfl
      exact Cursor.factor_eq_ok.mpr ⟨token, rest, next,
        .inr (.inr ⟨spellsNumber.1, rfl, rfl⟩)⟩

end

/-- The tokens that spell an expression parse to it. -/
theorem parseTokens_of_spells {tokens : List Token} {e : Expression}
    (spells : List.Forall₂ Token.Spells tokens e.toTree.leaves) : parseTokens tokens = .ok e := by
  let start := Cursor.ofTokens tokens
  have next : start.rest = tokens ++ [] := (List.append_nil tokens).symm
  have found := complete_expression e (c := start) rfl next spells (Cursor.sumEnds_of_atEnd rfl)
  rw [Cursor.closing_of_atEnd rfl] at found
  exact parseTokens_eq_ok.mpr ⟨_, found, rfl⟩

end Calculator
