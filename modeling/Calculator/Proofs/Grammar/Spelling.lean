import Calculator.Proofs.Grammar.Shape
import Calculator.Token
import Mathlib.Data.List.Forall2

/-!
Leaves and the tokens that spell them, and parentheses that match.

A leaf is spelled by a token of its kind, a number by a token with its text. The two minus leaves
have the same spelling. `List.Forall₂ Token.Spells tokens leaves` says that the tokens spell the
leaves one for one, in order.

The depth of a list of kinds is counted from the left: a `(` raises it, a `)` lowers it and has no
depth to go to at zero. A list is balanced if the count goes through and comes back; a `)` matches
a `(` to its left if what stands between them is balanced.

* `exists_append_of_spells`: tokens that spell two lists of leaves fall in two as well.
* `Expression.depthAfter_leaves` and its like: the leaves of every rule are balanced.
-/

namespace Calculator

/-! ### Spelling -/

/-- The kind of the token that spells a leaf. -/
def Leaf.kind : Leaf → Kind
  | .number _ => .number
  | .operator .add => .plus
  | .operator .sub => .minus
  | .operator .mul => .star
  | .operator .div => .slash
  | .negation => .minus
  | .openParen => .openParen
  | .closeParen => .closeParen

/-- The token has the kind of the leaf, and the text if the leaf is a number. -/
def Token.Spells (token : Token) (leaf : Leaf) : Prop :=
  token.kind = leaf.kind ∧ ∀ text ∈ leaf.number?, token.text = text

instance (token : Token) (leaf : Leaf) : Decidable (token.Spells leaf) :=
  inferInstanceAs (Decidable (_ ∧ _))

/-- A leaf that is no number is spelled by every token of its kind. -/
theorem Token.spells_of_kind {token : Token} {leaf : Leaf} (kind : token.kind = leaf.kind)
    (noNumber : leaf.kind ≠ .number) : token.Spells leaf := by
  refine ⟨kind, ?_⟩
  intro text isNumber
  cases leaf <;> cases isNumber
  exact absurd rfl noNumber

theorem Token.spells_number {token : Token} (kind : token.kind = .number) :
    token.Spells (.number token.text) := by
  refine ⟨kind, ?_⟩
  intro text isNumber
  cases isNumber
  rfl

/-- Tokens that spell the leaves of one list and then of another fall in two where the leaves do. -/
theorem exists_append_of_spells {tokens : List Token} {before after : List Leaf}
    (h : List.Forall₂ Token.Spells tokens (before ++ after)) :
    ∃ first second, tokens = first ++ second ∧ List.Forall₂ Token.Spells first before ∧
      List.Forall₂ Token.Spells second after := by
  refine ⟨tokens.take before.length, tokens.drop before.length, ?_, ?_, ?_⟩
  · exact (List.take_append_drop _ _).symm
  · exact List.forall₂_take_append _ _ _ h
  · exact List.forall₂_drop_append _ _ _ h

/-- Tokens have the kinds of the leaves they spell. -/
theorem map_kind_of_spells {tokens : List Token} {leaves : List Leaf}
    (h : List.Forall₂ Token.Spells tokens leaves) :
    tokens.map Token.kind = leaves.map Leaf.kind := by
  induction h with
  | nil => rfl
  | cons spells _ ih => rw [List.map_cons, List.map_cons, spells.1, ih]

/-! ### Matching parentheses -/

/-- The depth behind a token of some kind; a `)` at depth zero has none. -/
def Kind.deepen : Nat → Kind → Option Nat
  | depth, .openParen => some (depth + 1)
  | 0, .closeParen => none
  | depth + 1, .closeParen => some depth
  | depth, _ => some depth

/-- The depth behind some kinds that begin at a depth, if no `)` stands at depth zero. -/
def Kind.depthAfter (depth : Nat) (kinds : List Kind) : Option Nat :=
  kinds.foldlM Kind.deepen depth

/-- Every `(` has its `)`, in the same list and behind it, and every `)` its `(`. -/
def Kind.Balanced (kinds : List Kind) : Prop := Kind.depthAfter 0 kinds = some 0

instance (kinds : List Kind) : Decidable (Kind.Balanced kinds) :=
  inferInstanceAs (Decidable (_ = _))

@[simp] theorem Kind.depthAfter_nil (depth : Nat) : Kind.depthAfter depth [] = some depth := rfl

@[simp] theorem Kind.depthAfter_cons (depth : Nat) (kind : Kind) (kinds : List Kind) :
    Kind.depthAfter depth (kind :: kinds) =
      (Kind.deepen depth kind).bind fun d => Kind.depthAfter d kinds := rfl

theorem Kind.depthAfter_append (depth : Nat) (before after : List Kind) :
    Kind.depthAfter depth (before ++ after) =
      (Kind.depthAfter depth before).bind fun d => Kind.depthAfter d after :=
  List.foldlM_append

/-- The depth behind some kinds is what their parentheses make of the depth before them. -/
theorem Kind.count_of_depthAfter {kinds : List Kind} {before behind : Nat}
    (h : Kind.depthAfter before kinds = some behind) :
    before + kinds.count .openParen = behind + kinds.count .closeParen := by
  induction kinds generalizing before with
  | nil =>
    cases h
    rfl
  | cons kind kinds ih =>
    rw [Kind.depthAfter_cons] at h
    obtain ⟨depth, deepened, h⟩ := Option.bind_eq_some_iff.mp h
    have count := ih h
    cases kind with
    | openParen =>
      cases deepened
      rw [List.count_cons_self, List.count_cons_of_ne (by decide)]
      omega
    | closeParen =>
      cases before with
      | zero => cases deepened
      | succ before =>
        cases deepened
        rw [List.count_cons_of_ne (by decide), List.count_cons_self]
        omega
    | plus | minus | star | slash | number | unrecognized =>
      cases before <;> cases deepened <;> simpa using count

theorem Leaf.deepen_operator (depth : Nat) (op : Operator) :
    Kind.deepen depth (Leaf.operator op).kind = some depth := by
  cases op <;> simp [Leaf.kind, Kind.deepen]

theorem Leaf.deepen_negation (depth : Nat) :
    Kind.deepen depth Leaf.negation.kind = some depth := by
  simp [Leaf.kind, Kind.deepen]

theorem Leaf.deepen_number (depth : Nat) (text : String) :
    Kind.deepen depth (Leaf.number text).kind = some depth := by
  simp [Leaf.kind, Kind.deepen]

mutual

/-- The leaves of an expression come back to the depth where they begin. -/
theorem Expression.depthAfter_leaves : ∀ (e : Expression) (depth : Nat),
    Kind.depthAfter depth (e.toTree.leaves.map Leaf.kind) = some depth
  | .mk term tail, depth => by
    rw [Expression.leaves_mk, List.map_append, Kind.depthAfter_append,
      term.depthAfter_leaves depth]
    exact tail.depthAfter_leaves depth

/-- The leaves of a term come back to the depth where they begin. -/
theorem Term.depthAfter_leaves : ∀ (e : Term) (depth : Nat),
    Kind.depthAfter depth (e.toTree.leaves.map Leaf.kind) = some depth
  | .mk factor tail, depth => by
    rw [Term.leaves_mk, List.map_append, Kind.depthAfter_append, factor.depthAfter_leaves depth]
    exact tail.depthAfter_leaves depth

/-- The leaves of the tail of a sum come back to the depth where they begin. -/
theorem SumTail.depthAfter_leaves : ∀ (e : SumTail) (depth : Nat),
    Kind.depthAfter depth (e.toTree.leaves.map Leaf.kind) = some depth
  | .empty, depth => by simp
  | .next op term tail, depth => by
    rw [SumTail.leaves_next, List.map_cons, Kind.depthAfter_cons, Leaf.deepen_operator,
      Option.bind_some, List.map_append, Kind.depthAfter_append, term.depthAfter_leaves depth]
    exact tail.depthAfter_leaves depth

/-- The leaves of the tail of a product come back to the depth where they begin. -/
theorem ProductTail.depthAfter_leaves : ∀ (e : ProductTail) (depth : Nat),
    Kind.depthAfter depth (e.toTree.leaves.map Leaf.kind) = some depth
  | .empty, depth => by simp
  | .next op factor tail, depth => by
    rw [ProductTail.leaves_next, List.map_cons, Kind.depthAfter_cons, Leaf.deepen_operator,
      Option.bind_some, List.map_append, Kind.depthAfter_append, factor.depthAfter_leaves depth]
    exact tail.depthAfter_leaves depth

/-- The leaves of a factor come back to the depth where they begin: what a group adds at its `(` its
`)` takes off. -/
theorem Factor.depthAfter_leaves : ∀ (e : Factor) (depth : Nat),
    Kind.depthAfter depth (e.toTree.leaves.map Leaf.kind) = some depth
  | .group inner, depth => by
    have back := inner.depthAfter_leaves (depth + 1)
    simp [Kind.depthAfter_append, Leaf.kind, Kind.deepen, back]
  | .negation operand, depth => by
    rw [Factor.leaves_negation, List.map_cons, Kind.depthAfter_cons, Leaf.deepen_negation]
    exact operand.depthAfter_leaves depth
  | .number text, depth => by simp [Leaf.deepen_number]

end

end Calculator
