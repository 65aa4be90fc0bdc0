import Calculator.Proofs.Grammar.Soundness
import Calculator.Proofs.Token.Canonical
import Mathlib.Data.List.Chain

/-!
The text of an expression.

The text of a tree is what its leaves are written as, one after the other. Reading it back goes in
two steps. The leaves are laid out as tokens without gaps, and that list is canonical: in an
expression every number is followed by a sign, so no two runs of digits can join. Hence it is what
the text lexes to, and since it spells the leaves, it parses to the expression.

* `Expression.apart_leaves` and its like: no two numbers stand side by side.
* `canonical_layOut`: leaves laid out as tokens are a canonical list.
* `parse_eq_ok_iff`: a text parses to an expression exactly when it is the text of it.
-/

namespace Calculator

/-- What a tree is written as. -/
def Tree.text (t : Tree) : String := String.join (t.leaves.map Leaf.text)

/-! ### Numbers stand apart -/

/-- One of two neighbours is no number. -/
def Leaf.Apart (left right : Leaf) : Prop := left.kind = .number → right.kind ≠ .number

/-- A leaf that is no number may stand before all leaves that stand apart. -/
theorem Leaf.apart_cons {leaf : Leaf} {leaves : List Leaf} (noNumber : leaf.kind ≠ .number)
    (apart : leaves.IsChain Leaf.Apart) : (leaf :: leaves).IsChain Leaf.Apart := by
  rw [List.isChain_cons]
  constructor
  · intro next _ isNumber
    exact absurd isNumber noNumber
  · exact apart

/-- Leaves that begin with no number may stand behind all leaves that stand apart. -/
theorem Leaf.apart_append {before after : List Leaf} (apartBefore : before.IsChain Leaf.Apart)
    (apartAfter : after.IsChain Leaf.Apart)
    (noNumber : ∀ leaf ∈ after.head?, leaf.kind ≠ .number) :
    (before ++ after).IsChain Leaf.Apart := by
  rw [List.isChain_append]
  refine ⟨apartBefore, apartAfter, ?_⟩
  intro last _ leaf first _
  exact noNumber leaf first

/-- A leaf of the kind of numbers is a number. -/
theorem Leaf.exists_number {leaf : Leaf} (isNumber : leaf.kind = .number) :
    ∃ text, leaf = .number text := by
  cases leaf with
  | number text => exact ⟨text, rfl⟩
  | operator op => cases op <;> cases isNumber
  | negation => cases isNumber
  | openParen => cases isNumber
  | closeParen => cases isNumber

theorem Leaf.kind_operator_ne (op : Operator) : (Leaf.operator op).kind ≠ .number := by
  cases op <;> simp [Leaf.kind]

/-- The tail of a sum begins with an operator. -/
theorem SumTail.head_leaves (e : SumTail) :
    ∀ leaf ∈ e.toTree.leaves.head?, leaf.kind ≠ .number := by
  cases e with
  | empty => simp
  | next op term tail => simp [Leaf.kind_operator_ne]

/-- The tail of a product begins with an operator. -/
theorem ProductTail.head_leaves (e : ProductTail) :
    ∀ leaf ∈ e.toTree.leaves.head?, leaf.kind ≠ .number := by
  cases e with
  | empty => simp
  | next op factor tail => simp [Leaf.kind_operator_ne]

mutual

/-- No two numbers of an expression stand side by side. -/
theorem Expression.apart_leaves : ∀ e : Expression, e.toTree.leaves.IsChain Leaf.Apart
  | .mk term tail => by
    rw [Expression.leaves_mk]
    exact Leaf.apart_append term.apart_leaves tail.apart_leaves tail.head_leaves

/-- No two numbers of a term stand side by side. -/
theorem Term.apart_leaves : ∀ e : Term, e.toTree.leaves.IsChain Leaf.Apart
  | .mk factor tail => by
    rw [Term.leaves_mk]
    exact Leaf.apart_append factor.apart_leaves tail.apart_leaves tail.head_leaves

/-- No two numbers of the tail of a sum stand side by side. -/
theorem SumTail.apart_leaves : ∀ e : SumTail, e.toTree.leaves.IsChain Leaf.Apart
  | .empty => by simp
  | .next op term tail => by
    rw [SumTail.leaves_next]
    exact Leaf.apart_cons (Leaf.kind_operator_ne _)
      (Leaf.apart_append term.apart_leaves tail.apart_leaves tail.head_leaves)

/-- No two numbers of the tail of a product stand side by side. -/
theorem ProductTail.apart_leaves : ∀ e : ProductTail, e.toTree.leaves.IsChain Leaf.Apart
  | .empty => by simp
  | .next op factor tail => by
    rw [ProductTail.leaves_next]
    exact Leaf.apart_cons (Leaf.kind_operator_ne _)
      (Leaf.apart_append factor.apart_leaves tail.apart_leaves tail.head_leaves)

/-- No two numbers of a factor stand side by side. -/
theorem Factor.apart_leaves : ∀ e : Factor, e.toTree.leaves.IsChain Leaf.Apart
  | .group inner => by
    rw [Factor.leaves_group]
    refine Leaf.apart_cons (by decide) (Leaf.apart_append inner.apart_leaves (by simp) ?_)
    simp [Leaf.kind]
  | .negation operand => by
    rw [Factor.leaves_negation]
    exact Leaf.apart_cons (by decide) operand.apart_leaves
  | .number text => by simp

end

/-! ### Laying out leaves as tokens -/

/-- The number of a leaf, if it is one, is a run of digits. -/
def Leaf.Lexical (leaf : Leaf) : Prop := ∀ text ∈ leaf.number?, IsDigits text

/-- A leaf that can be lexed has a text of its kind. -/
theorem Leaf.Lexical.accepts {leaf : Leaf} (lexical : leaf.Lexical) :
    leaf.kind.Accepts leaf.text := by
  cases leaf with
  | number text => exact lexical text rfl
  | operator op =>
    cases op with
    | add => exact ⟨'+', rfl, rfl⟩
    | sub => exact ⟨'-', rfl, rfl⟩
    | mul => exact ⟨'*', rfl, rfl⟩
    | div => exact ⟨'/', rfl, rfl⟩
  | negation => exact ⟨'-', rfl, rfl⟩
  | openParen => exact ⟨'(', rfl, rfl⟩
  | closeParen => exact ⟨')', rfl, rfl⟩

/-- Tokens with the kinds and texts of some leaves, without gaps from a byte offset on. -/
def Leaf.layOut (offset : Nat) : List Leaf → List Token
  | [] => []
  | leaf :: leaves =>
    ⟨leaf.kind, leaf.text, ⟨offset, leaf.text.utf8ByteSize⟩⟩ ::
      layOut (offset + leaf.text.utf8ByteSize) leaves

theorem Leaf.spells_layOut (offset : Nat) (leaves : List Leaf) :
    List.Forall₂ Token.Spells (layOut offset leaves) leaves := by
  induction leaves generalizing offset with
  | nil => exact .nil
  | cons leaf leaves ih =>
    refine .cons ⟨rfl, fun text isNumber => ?_⟩ (ih _)
    cases leaf <;> cases isNumber
    rfl

theorem Leaf.map_text_layOut (offset : Nat) (leaves : List Leaf) :
    (layOut offset leaves).map Token.text = leaves.map Leaf.text := by
  induction leaves generalizing offset with
  | nil => rfl
  | cons leaf leaves ih => rw [layOut, List.map_cons, ih, List.map_cons]

/-- Leaves that can be lexed and stand apart are laid out as a canonical list. -/
theorem Leaf.canonical_layOut (offset : Nat) {leaves : List Leaf}
    (lexical : ∀ leaf ∈ leaves, leaf.Lexical) (apart : leaves.IsChain Leaf.Apart) :
    Canonical offset (layOut offset leaves) := by
  induction leaves generalizing offset with
  | nil => exact .nil offset
  | cons leaf leaves ih =>
    obtain ⟨lexicalHead, lexicalTail⟩ := List.forall_mem_cons.mp lexical
    obtain ⟨apartHead, apartTail⟩ := List.isChain_cons.mp apart
    refine .cons lexicalHead.accepts (fun isNumber => ?_) (ih _ lexicalTail apartTail)
    rintro ⟨next, first, nextIsNumber⟩
    cases leaves with
    | nil => cases first
    | cons following leaves =>
      cases first
      exact apartHead following rfl isNumber nextIsNumber

/-- Where canonical tokens spell leaves, the texts are the same, and the numbers are runs of
digits. -/
theorem Canonical.of_spells {offset : Nat} {tokens : List Token} {leaves : List Leaf}
    (canonical : Canonical offset tokens) (spells : List.Forall₂ Token.Spells tokens leaves) :
    tokens.map Token.text = leaves.map Leaf.text ∧ ∀ leaf ∈ leaves, leaf.Lexical := by
  induction canonical generalizing leaves with
  | nil =>
    cases spells
    exact ⟨rfl, by simp⟩
  | @cons offset kind text tokens accepts maximal rest ih =>
    cases spells with
    | @cons _ leaf _ leaves spells spellsRest =>
      obtain ⟨same, lexical⟩ := ih spellsRest
      obtain ⟨sameKind, sameNumber⟩ := spells
      obtain rfl : kind = leaf.kind := sameKind
      have lexicalLeaf : leaf.Lexical := by
        intro number isNumber
        obtain rfl : text = number := sameNumber number isNumber
        cases leaf <;> cases isNumber
        exact accepts
      have sameText : text = leaf.text := by
        by_cases isNumber : leaf.kind = .number
        · obtain ⟨number, rfl⟩ := Leaf.exists_number isNumber
          exact sameNumber number rfl
        · exact accepts.unique lexicalLeaf.accepts isNumber
      exact ⟨by rw [List.map_cons, List.map_cons, same, sameText],
        List.forall_mem_cons.mpr ⟨lexicalLeaf, lexical⟩⟩

/-! ### Reading a text back -/

theorem Tree.forall_numbers_iff {t : Tree} :
    (∀ text ∈ t.numbers, IsDigits text) ↔ ∀ leaf ∈ t.leaves, leaf.Lexical := by
  simp only [Tree.numbers, List.mem_filterMap, Leaf.Lexical, Option.mem_def]
  grind

/-- A text parses if it lexes and the tokens parse. -/
theorem parse_eq_ok {text : String} {e : Expression} :
    parse text = .ok e ↔ ∃ tokens, lex text = .ok tokens ∧ parseTokens tokens = .ok e := by
  unfold parse
  cases lex text with
  | error e => simp
  | ok tokens => cases h : parseTokens tokens <;> simp [Except.mapError, h]

/-- A text is refused by lexing, or its tokens are refused. -/
theorem parse_eq_error {text : String} {error : SyntaxError} :
    parse text = .error error ↔
      (∃ e, lex text = .error e ∧ .lexical e = error) ∨
        ∃ tokens e, lex text = .ok tokens ∧ parseTokens tokens = .error e ∧
          .grammatical e = error := by
  unfold parse
  cases lex text with
  | error e => simp
  | ok tokens => cases h : parseTokens tokens <;> simp [Except.mapError, h]

/-- A text that does not lex is refused with the error of lexing, before all others. -/
theorem lex_eq_error {text : String} {e : LexError} :
    lex text = .error e ↔ parse text = .error (.lexical e) := by
  rw [parse_eq_error]
  simp

/-- **A text parses to an expression exactly when it is the text of it** and the numbers of the
expression are runs of digits. -/
theorem parse_eq_ok_iff {text : String} {e : Expression} :
    parse text = .ok e ↔
      text = e.toTree.text ∧ ∀ number ∈ e.toTree.numbers, IsDigits number := by
  rw [parse_eq_ok, Tree.forall_numbers_iff, Tree.text]
  constructor
  · rintro ⟨tokens, lexed, parsed⟩
    obtain ⟨canonical, rfl⟩ := lex_eq_ok_iff.mp lexed
    obtain ⟨same, lexical⟩ := canonical.of_spells (spells_of_parseTokens parsed)
    exact ⟨congrArg String.join same, lexical⟩
  · rintro ⟨rfl, lexical⟩
    refine ⟨Leaf.layOut 0 e.toTree.leaves, lex_eq_ok_iff.mpr ⟨?_, ?_⟩, ?_⟩
    · exact Leaf.canonical_layOut 0 lexical e.apart_leaves
    · rw [Leaf.map_text_layOut]
    · exact parseTokens_of_spells (Leaf.spells_layOut 0 _)

/-- **Reading undoes writing.** The text of a tree in the shape of an expression parses to that very
tree, if its numbers are runs of digits, and no second such tree has the same text. -/
theorem parse_text_of_hasShape {t : Tree} (shape : t.HasShape .expression)
    (digits : ∀ number ∈ t.numbers, IsDigits number) :
    (parse t.text).map Expression.toTree = .ok t ∧
      ∀ t' : Tree, t'.HasShape .expression → (∀ number ∈ t'.numbers, IsDigits number) →
        t'.text = t.text → t' = t := by
  obtain ⟨e, rfl⟩ := shape.isTyped
  have parsed : parse e.toTree.text = .ok e := parse_eq_ok_iff.mpr ⟨rfl, digits⟩
  refine ⟨by rw [parsed]; rfl, ?_⟩
  intro t' shape' digits' same
  obtain ⟨e', rfl⟩ := shape'.isTyped
  have parsed' : parse e'.toTree.text = .ok e' := parse_eq_ok_iff.mpr ⟨rfl, digits'⟩
  rw [same, parsed] at parsed'
  cases parsed'
  rfl

/-- A binary minus, then a unary one before two groups that close together, and more behind them. -/
theorem parse_text_nested_groups :
    let group (inner : Factor) : Factor := .group (.mk (.mk inner .empty) .empty)
    let e : Expression :=
      .mk (.mk (.number "20") .empty)
        (.next .minus
          (.mk (.negation (group (group (.number "3"))))
            (.next .over (.number "04") (.next .times (.number "5") .empty)))
          (.next .plus (.mk (.number "1") .empty) .empty))
    e.toTree.text = "20--((3))/04*5+1" ∧
      (parse "20--((3))/04*5+1").map Expression.toTree = .ok e.toTree := by
  intro group e
  have text : e.toTree.text = "20--((3))/04*5+1" := by decide
  exact ⟨text, text ▸ (parse_text_of_hasShape e.hasShape_toTree (by decide)).1⟩

end Calculator
