import Calculator.Proofs.Grammar.Recognizer

/-!
Postfix order by precedence, without a tree.

Tokens in the order of an expression can be put into postfix order with a stack for the operators
that still wait for their right operand. Numbers go straight to the output. A binary operator first
sends out those on top of the stack that bind at least as tightly on its left, and then waits there
itself; a `)` sends out all that has come since its `(`.

Which operators go out before which is the whole of precedence and associativity. A negation goes
out before all of them. Before an operator of a sum every operator goes out, so sums group to the
left; before an operator of a product no binary operator does, so products group to the right.

The parser knows nothing of this. It builds a tree, whose tails both grow to the right, and the
order is put right when the tree is flattened. `Yard.Settles` is the invariant that ties the two:
behind the tokens of a part of the tree, some operators may still wait above the stack that was
there before, and sending them out completes the symbols of that part.

* `Yard.Settles.operator`: what a binary operator does behind its left operand.
* `settles_expression` and its like: the tokens of every part of a tree.
* `linearize_eq_shunt`: flattening what tokens parse to gives what the tokens are shunted to.
-/

namespace Calculator

/-! ### The algorithm -/

/-- What waits on the stack. -/
inductive Waiting where
  | openParen
  | negation
  | operator (op : Operator)
deriving DecidableEq, Repr

/-- The symbol that an entry of the stack becomes; a parenthesis has none. -/
def Waiting.symbol? : Waiting → Option Symbol
  | .openParen => none
  | .negation => some .negate
  | .operator op => some (.operator op)

/-- The operator joins terms. -/
def Operator.isAdditive : Operator → Bool
  | .add => true
  | .sub => true
  | .mul => false
  | .div => false

/-- Whether an entry on top of the stack goes out before a binary operator comes in: a negation
always, a binary operator of either kind before one that joins terms, a parenthesis never. -/
def Waiting.yieldsTo (op : Operator) : Waiting → Bool
  | .openParen => false
  | .negation => true
  | .operator _ => op.isAdditive

/-- The operators that wait and the symbols that are out. -/
structure Yard where
  mode : Mode
  /-- The entries of the stack, top first. -/
  stack : List Waiting
  output : Postfix
deriving DecidableEq, Repr

namespace Yard

/-- Before the first token. -/
def start : Yard := ⟨.wanted, [], []⟩

/-- The symbols of entries that go out one after the other. -/
def symbols (entries : List Waiting) : Postfix := entries.filterMap Waiting.symbol?

/-- A binary operator sends out what yields to it and waits on top of the rest. -/
def operator (y : Yard) (op : Operator) : Yard where
  mode := .wanted
  stack := .operator op :: y.stack.dropWhile (·.yieldsTo op)
  output := y.output ++ symbols (y.stack.takeWhile (·.yieldsTo op))

/-- A `)` sends out what stands above the last `(` and drops that. -/
def close (y : Yard) : Yard where
  mode := .complete
  stack := (y.stack.dropWhile (· ≠ .openParen)).tail
  output := y.output ++ symbols (y.stack.takeWhile (· ≠ .openParen))

/-- Takes one token. A minus is a negation where an operand is wanted. -/
def step (y : Yard) (token : Token) : Yard :=
  match token.kind, y.mode with
  | .number, _ => { y with mode := .complete, output := y.output ++ [.number token.text] }
  | .openParen, _ => { y with mode := .wanted, stack := .openParen :: y.stack }
  | .closeParen, _ => y.close
  | .minus, .wanted => { y with stack := .negation :: y.stack }
  | .minus, .complete => y.operator .sub
  | .plus, _ => y.operator .add
  | .star, _ => y.operator .mul
  | .slash, _ => y.operator .div
  | .unrecognized, _ => y

/-- Takes tokens in turn. -/
def run (y : Yard) (tokens : List Token) : Yard := tokens.foldl step y

/-- The output when all that waits has gone out. -/
def finish (y : Yard) : Postfix := y.output ++ symbols y.stack

end Yard

/-- The postfix order of a token list. -/
def shunt (tokens : List Token) : Postfix := (Yard.start.run tokens).finish

namespace Yard

@[simp] theorem symbols_nil : symbols [] = [] := rfl

theorem symbols_append (above below : List Waiting) :
    symbols (above ++ below) = symbols above ++ symbols below :=
  List.filterMap_append

@[simp] theorem run_nil (y : Yard) : y.run [] = y := rfl

@[simp] theorem run_cons (y : Yard) (token : Token) (tokens : List Token) :
    y.run (token :: tokens) = (y.step token).run tokens := rfl

@[simp] theorem run_append (y : Yard) (first second : List Token) :
    y.run (first ++ second) = (y.run first).run second :=
  List.foldl_append

/-! ### The invariant -/

/-- An operand is complete, and above the entries `base` only such as are `allowed` wait. When they
have gone out, the output is `symbols`. -/
def Settles (y : Yard) (allowed : Waiting → Prop) (base : List Waiting) (symbols : Postfix) :
    Prop :=
  y.mode = .complete ∧ ∃ above, (∀ entry ∈ above, allowed entry) ∧ y.stack = above ++ base ∧
    y.output ++ Yard.symbols above = symbols

variable {y : Yard} {allowed allowed' : Waiting → Prop} {base : List Waiting} {p : Postfix}

/-- An operand that has just gone out leaves nothing waiting. -/
theorem settles_of_output (allowed : Waiting → Prop) (base : List Waiting) (p : Postfix) :
    (⟨.complete, base, p⟩ : Yard).Settles allowed base p :=
  ⟨rfl, [], by simp, rfl, by simp⟩

theorem Settles.mono (h : y.Settles allowed base p)
    (weaker : ∀ entry, allowed entry → allowed' entry) : y.Settles allowed' base p := by
  obtain ⟨mode, above, inside, stack, output⟩ := h
  exact ⟨mode, above, fun entry member => weaker entry (inside entry member), stack, output⟩

/-- What waits below may be counted among what waits above; its symbol then comes last. -/
theorem Settles.lower {entry : Waiting} {symbol : Symbol}
    (h : y.Settles allowed (entry :: base) p) (fits : allowed entry)
    (goesOut : entry.symbol? = some symbol) : y.Settles allowed base (p ++ [symbol]) := by
  obtain ⟨mode, above, inside, stack, output⟩ := h
  refine ⟨mode, above ++ [entry], ?_, ?_, ?_⟩
  · intro other member
    rcases List.mem_append.mp member with member | member
    · exact inside other member
    · rw [List.mem_singleton.mp member]
      exact fits
  · rw [stack, List.append_assoc, List.singleton_append]
  · rw [symbols_append, ← List.append_assoc, output]
    simp [symbols, goesOut]

/-- Behind its left operand, a binary operator sends out all that waits above the base, and no more
if what is below does not yield to it. -/
theorem Settles.operator {op : Operator} (h : y.Settles allowed base p)
    (yields : ∀ entry, allowed entry → entry.yieldsTo op = true)
    (stays : ∀ entry ∈ base.head?, entry.yieldsTo op = false) :
    y.operator op = ⟨.wanted, .operator op :: base, p⟩ := by
  obtain ⟨-, above, inside, stack, output⟩ := h
  have leave : ∀ entry ∈ above, entry.yieldsTo op = true :=
    fun entry member => yields entry (inside entry member)
  have stay : base.takeWhile (·.yieldsTo op) = [] ∧ base.dropWhile (·.yieldsTo op) = base := by
    cases base with
    | nil => exact ⟨rfl, rfl⟩
    | cons entry base => simp [stays entry rfl]
  simp only [Yard.operator, stack, List.takeWhile_append_of_pos leave,
    List.dropWhile_append_of_pos leave, stay, List.append_nil, output]

/-- An operator of a sum sends out all that has come since the start or the last `(`. -/
theorem Settles.additive (h : y.Settles (· ≠ .openParen) base p) (op : Additive)
    (bottom : ∀ entry ∈ base.head?, entry = .openParen) :
    y.operator op.operator = ⟨.wanted, .operator op.operator :: base, p⟩ := by
  have joinsTerms : op.operator.isAdditive = true := by cases op <;> rfl
  refine h.operator ?_ ?_
  · intro entry noParen
    cases entry with
    | openParen => exact absurd rfl noParen
    | negation => rfl
    | operator waiting => exact joinsTerms
  · intro entry head
    rw [bottom entry head]
    rfl

/-- An operator of a product sends out the negations before it and no binary operator. -/
theorem Settles.multiplicative (h : y.Settles (· = .negation) base p) (op : Multiplicative)
    (noNegation : ∀ entry ∈ base.head?, entry ≠ .negation) :
    y.operator op.operator = ⟨.wanted, .operator op.operator :: base, p⟩ := by
  have joinsFactors : op.operator.isAdditive = false := by cases op <;> rfl
  refine h.operator ?_ ?_
  · rintro entry rfl
    rfl
  · intro entry head
    cases entry with
    | openParen => rfl
    | negation => exact absurd rfl (noNegation _ head)
    | operator waiting => exact joinsFactors

/-- A `)` sends out all that waits above its `(`. -/
theorem Settles.close (h : y.Settles (· ≠ .openParen) (.openParen :: base) p) :
    y.close = ⟨.complete, base, p⟩ := by
  obtain ⟨-, above, inside, stack, output⟩ := h
  have leave : ∀ entry ∈ above, decide (entry ≠ .openParen) = true :=
    fun entry member => decide_eq_true (inside entry member)
  simp only [Yard.close, stack, List.takeWhile_append_of_pos leave,
    List.dropWhile_append_of_pos leave, List.takeWhile_cons, List.dropWhile_cons, ne_eq,
    not_true_eq_false, decide_false, Bool.false_eq_true, if_false, List.append_nil, output,
    List.tail_cons]

/-- At the end all that waits goes out. -/
theorem Settles.finish (h : y.Settles allowed [] p) : y.finish = p := by
  obtain ⟨-, above, -, stack, output⟩ := h
  rw [Yard.finish, stack, List.append_nil, output]

/-! ### Single tokens -/

variable {token : Token}

theorem step_number (kind : token.kind = .number) (y : Yard) :
    y.step token = { y with mode := .complete, output := y.output ++ [.number token.text] } := by
  simp only [step, kind]

theorem step_openParen (kind : token.kind = .openParen) (y : Yard) :
    y.step token = { y with mode := .wanted, stack := .openParen :: y.stack } := by
  simp only [step, kind]

theorem step_closeParen (kind : token.kind = .closeParen) (y : Yard) :
    y.step token = y.close := by
  simp only [step, kind]

/-- Where an operand is wanted, a minus waits as a negation. -/
theorem step_negation (kind : token.kind = .minus) (base : List Waiting) (output : Postfix) :
    step ⟨.wanted, base, output⟩ token = ⟨.wanted, .negation :: base, output⟩ := by
  simp only [step, kind]

/-- Behind an operand, every operator is a binary one. -/
theorem step_operator {op : Operator} (spells : token.Spells (.operator op))
    (mode : y.mode = .complete) : y.step token = y.operator op := by
  have kind := spells.1
  cases op <;> simp only [Leaf.kind] at kind <;> simp only [step, kind, mode]

end Yard

/-! ### The tokens of a tree -/

open Yard in
mutual

/-- The tokens of an expression, at the start or behind a `(`. -/
theorem settles_expression : ∀ (e : Expression) {tokens : List Token} (base : List Waiting)
    (output : Postfix), List.Forall₂ Token.Spells tokens e.toTree.leaves →
    (∀ entry ∈ base.head?, entry = .openParen) →
    (run ⟨.wanted, base, output⟩ tokens).Settles (· ≠ .openParen) base
      (output ++ e.toTree.linearize)
  | .mk term tail, tokens, base, output, spells, bottom => by
    rw [Expression.leaves_mk] at spells
    obtain ⟨first, second, rfl, spellsTerm, spellsTail⟩ := exists_append_of_spells spells
    have noNegation : ∀ entry ∈ base.head?, entry ≠ .negation := by
      intro entry head
      rw [bottom entry head]
      decide
    have hTerm := settles_term term base output spellsTerm noNegation
    have hTail := settles_sumTail tail spellsTail hTerm bottom
    rw [run_append, Expression.linearize_mk, ← List.append_assoc]
    exact hTail

/-- The tokens of a term, where no negation waits for it. -/
theorem settles_term : ∀ (e : Term) {tokens : List Token} (base : List Waiting)
    (output : Postfix), List.Forall₂ Token.Spells tokens e.toTree.leaves →
    (∀ entry ∈ base.head?, entry ≠ .negation) →
    (run ⟨.wanted, base, output⟩ tokens).Settles (· ≠ .openParen) base
      (output ++ e.toTree.linearize)
  | .mk factor tail, tokens, base, output, spells, noNegation => by
    rw [Term.leaves_mk] at spells
    obtain ⟨first, second, rfl, spellsFactor, spellsTail⟩ := exists_append_of_spells spells
    have hFactor := settles_factor factor base output spellsFactor
    have hTail := settles_productTail tail spellsTail hFactor noNegation
    rw [run_append, Term.linearize_mk, ← List.append_assoc]
    exact hTail

/-- The tokens of the tail of a sum. Its operator sends out the whole sum so far, so that only the
operator waits while the term behind it is read. -/
theorem settles_sumTail : ∀ (e : SumTail) {tokens : List Token} {y : Yard} {base : List Waiting}
    {p : Postfix}, List.Forall₂ Token.Spells tokens e.toTree.leaves →
    y.Settles (· ≠ .openParen) base p → (∀ entry ∈ base.head?, entry = .openParen) →
    (y.run tokens).Settles (· ≠ .openParen) base (p ++ e.toTree.linearize)
  | .empty, tokens, y, base, p, spells, left, bottom => by
    rw [SumTail.leaves_empty, List.forall₂_nil_right_iff] at spells
    subst spells
    rw [SumTail.linearize_empty, List.append_nil]
    exact left
  | .next op term tail, tokens, y, base, p, spells, left, bottom => by
    rw [SumTail.leaves_next] at spells
    cases spells with
    | @cons token _ following _ spellsOp spells =>
      obtain ⟨first, second, rfl, spellsTerm, spellsTail⟩ := exists_append_of_spells spells
      have hTerm := settles_term term (.operator op.operator :: base) p spellsTerm (by simp)
      -- The operator goes out next after the term, before anything of the tail behind it.
      have hSum := hTerm.lower (by simp) rfl
      have hTail := settles_sumTail tail spellsTail hSum bottom
      rw [run_cons, step_operator spellsOp left.1, left.additive op bottom, run_append,
        SumTail.linearize_next]
      simpa only [List.append_assoc, List.singleton_append] using hTail

/-- The tokens of the tail of a product. Its operator sends out the negations of the factor before
it and nothing else, and it goes on waiting until the rest of the product is complete. -/
theorem settles_productTail : ∀ (e : ProductTail) {tokens : List Token} {y : Yard}
    {base : List Waiting} {p : Postfix}, List.Forall₂ Token.Spells tokens e.toTree.leaves →
    y.Settles (· = .negation) base p → (∀ entry ∈ base.head?, entry ≠ .negation) →
    (y.run tokens).Settles (· ≠ .openParen) base (p ++ e.toTree.linearize)
  | .empty, tokens, y, base, p, spells, left, noNegation => by
    rw [ProductTail.leaves_empty, List.forall₂_nil_right_iff] at spells
    subst spells
    rw [ProductTail.linearize_empty, List.append_nil]
    exact left.mono (by rintro entry rfl; decide)
  | .next op factor tail, tokens, y, base, p, spells, left, noNegation => by
    rw [ProductTail.leaves_next] at spells
    cases spells with
    | @cons token _ following _ spellsOp spells =>
      obtain ⟨first, second, rfl, spellsFactor, spellsTail⟩ := exists_append_of_spells spells
      have hFactor := settles_factor factor (.operator op.operator :: base) p spellsFactor
      have hTail := settles_productTail tail spellsTail hFactor (by simp)
      -- The operator has waited below the rest of the product, so its symbol comes last.
      have hProduct := hTail.lower (by simp) rfl
      rw [run_cons, step_operator spellsOp left.1, left.multiplicative op noNegation, run_append,
        ProductTail.linearize_next]
      simpa only [List.append_assoc] using hProduct

/-- The tokens of a factor leave at most its negations waiting, whatever waits for it. -/
theorem settles_factor : ∀ (e : Factor) {tokens : List Token} (base : List Waiting)
    (output : Postfix), List.Forall₂ Token.Spells tokens e.toTree.leaves →
    (run ⟨.wanted, base, output⟩ tokens).Settles (· = .negation) base
      (output ++ e.toTree.linearize)
  | .group inner, tokens, base, output, spells => by
    rw [Factor.leaves_group] at spells
    cases spells with
    | @cons token _ following _ spellsOpen spells =>
      obtain ⟨middle, last, rfl, spellsInner, spellsLast⟩ := exists_append_of_spells spells
      cases spellsLast with
      | @cons close _ _ _ spellsClose nothing =>
        cases nothing
        have hInner := settles_expression inner (.openParen :: base) output spellsInner (by simp)
        rw [run_cons, step_openParen spellsOpen.1, run_append, run_cons,
          step_closeParen spellsClose.1, hInner.close, run_nil, Factor.linearize_group]
        exact settles_of_output _ _ _
  | .negation operand, tokens, base, output, spells => by
    rw [Factor.leaves_negation] at spells
    cases spells with
    | @cons token _ following _ spellsMinus spells =>
      have hOperand := settles_factor operand (.negation :: base) output spells
      rw [run_cons, step_negation spellsMinus.1, Factor.linearize_negation, ← List.append_assoc]
      exact hOperand.lower rfl rfl
  | .number text, tokens, base, output, spells => by
    rw [Factor.leaves_number] at spells
    cases spells with
    | @cons token _ following _ spellsNumber spells =>
      cases spells
      obtain rfl : token.text = text := spellsNumber.2 text rfl
      rw [run_cons, step_number spellsNumber.1, run_nil, Factor.linearize_number]
      exact settles_of_output _ _ _

end

/-- **Flattening the tree and shunting the tokens give the same sequence**, symbol for symbol, for
all tokens that parse. -/
theorem linearize_eq_shunt {tokens : List Token} {e : Expression}
    (h : parseTokens tokens = .ok e) : e.toTree.linearize = shunt tokens := by
  have settles := settles_expression e [] [] (spells_of_parseTokens h) (by simp)
  exact settles.finish.symm

/-- The tokens of `8--(2+3)*4/5-6`: a negated group, a product that groups to the right and a sum
that groups to the left. -/
theorem linearize_eq_shunt_mixed_chain :
    let sign (kind : Kind) (text : String) : Token := ⟨kind, text, ⟨0, 1⟩⟩
    let tokens : List Token :=
      [sign .number "8", sign .minus "-", sign .minus "-", sign .openParen "(", sign .number "2",
        sign .plus "+", sign .number "3", sign .closeParen ")", sign .star "*", sign .number "4",
        sign .slash "/", sign .number "5", sign .minus "-", sign .number "6"]
    let group : Factor :=
      .group (.mk (.mk (.number "2") .empty) (.next .plus (.mk (.number "3") .empty) .empty))
    let e : Expression :=
      .mk (.mk (.number "8") .empty)
        (.next .minus
          (.mk (.negation group) (.next .times (.number "4") (.next .over (.number "5") .empty)))
          (.next .minus (.mk (.number "6") .empty) .empty))
    parseTokens tokens = .ok e ∧ e.toTree.linearize = shunt tokens ∧
      (shunt tokens).text = "8 2 3 + neg 4 5 / * - 6 -" := by
  intro sign tokens group e
  have parsed : parseTokens tokens = .ok e := parseTokens_of_spells (by decide)
  exact ⟨parsed, linearize_eq_shunt parsed, by decide⟩

end Calculator
