import Calculator.Proofs.Grammar.Soundness

/-!
One cursor for several calls.

A cursor can be handed from call to call: a token is taken, a factor parsed, then the tail of a
sum, and so on in any order. The count of open groups and the flag go up and down during each call,
and all the calls inside it share them. Between two calls, as long as none has failed, nothing of
this is left: the cursor is `Idle`. The next call finds what it would find at the start of a list
of the tokens that are left.

There is one thing that the tokens left do not tell, the place to report an end that comes too
early. It is that of the whole list. No rule looks at it otherwise, so moving it moves the errors
at the end of the input and changes nothing else.

* `Cursor.rules_withStop`: what moving the end does to the outcome of a rule.
* `Cursor.Idle.run`: a call that goes through leaves an idle cursor idle.
* `Cursor.Idle.run_eq`: a call on an idle cursor, by the same call on the tokens left.
* `Cursor.Reaches.resumes`: both for every run of calls.
-/

namespace Calculator

/-! ### Moving the end -/

/-- The same error for a token list that ends elsewhere. -/
def ParseError.withStop (stop : Nat) (e : ParseError) : ParseError :=
  if e.fault = .unexpectedEnd then ⟨.unexpectedEnd, ⟨stop, 0⟩⟩ else e

namespace Cursor

variable {α β : Type}

/-- The same cursor in a token list that ends elsewhere. -/
def withStop (stop : Nat) (c : Cursor) : Cursor := { c with stop }

/-- The same outcome for a token list that ends elsewhere. -/
def outcomeWithStop (stop : Nat) (outcome : Except ParseError α × Cursor) :
    Except ParseError α × Cursor :=
  (outcome.1.mapError (·.withStop stop), outcome.2.withStop stop)

/-- What a rule does with a tail it has parsed does not depend on the end, if the tail does not. -/
theorem outcomeWithStop_tail {stop : Nat} {tail : Cursor → Except ParseError α × Cursor}
    {c : Cursor} (h : tail (c.withStop stop) = outcomeWithStop stop (tail c)) (f : α → β) :
    ((tail (c.withStop stop)).1.map f, (tail (c.withStop stop)).2) =
      outcomeWithStop stop ((tail c).1.map f, (tail c).2) := by
  rw [h]
  rcases tail c with ⟨_ | _, _⟩ <;> rfl

theorem take_withStop (stop : Nat) (c : Cursor) :
    (c.withStop stop).take = outcomeWithStop stop c.take := by
  rcases c with ⟨_ | _, _, _, _⟩ <;> rfl

/-- **No rule depends on where the token list ends**, but for the place of an unexpected end. -/
theorem rules_withStop (stop : Nat) : ∀ c : Cursor,
    (c.withStop stop).expression = outcomeWithStop stop c.expression ∧
      (c.withStop stop).term = outcomeWithStop stop c.term ∧
      (c.withStop stop).sumTail = outcomeWithStop stop c.sumTail ∧
      (c.withStop stop).productTail = outcomeWithStop stop c.productTail ∧
      (c.withStop stop).factor = outcomeWithStop stop c.factor := by
  refine rules_induction ?expression ?term ?sumTail ?productTail ?factor
  case expression =>
    intro c ihTerm ihTail
    rw [expression_eq, expression_eq, ihTerm]
    rcases hTerm : c.term with ⟨e | term, c₁⟩ <;> rw [hTerm] at ihTail
    · rfl
    · exact outcomeWithStop_tail ihTail _
  case term =>
    intro c ihFactor ihTail
    rw [term_eq, term_eq, ihFactor]
    rcases hFactor : c.factor with ⟨e | factor, c₁⟩ <;> rw [hFactor] at ihTail
    · rfl
    · exact outcomeWithStop_tail ihTail _
  case sumTail =>
    intro c ih
    rw [sumTail_eq, sumTail_eq]
    rcases c with ⟨_ | ⟨token, rest⟩, stop₀, openGroups, _ | _⟩
    · rfl
    · rfl
    · obtain ⟨ihTerm, ihTail⟩ := ih token rest rfl
      simp only [withStop, Bool.false_eq_true, if_false] at ihTerm ⊢
      cases additive? token.kind with
      | none => rfl
      | some op =>
        dsimp only
        rw [ihTerm]
        rcases hTerm : (⟨rest, stop₀, openGroups, false⟩ : Cursor).term with ⟨e | term, c₁⟩ <;>
          rw [hTerm] at ihTail
        · rfl
        · exact outcomeWithStop_tail ihTail _
    · rfl
  case productTail =>
    intro c ih
    rw [productTail_eq, productTail_eq]
    rcases c with ⟨_ | ⟨token, rest⟩, stop₀, openGroups, _ | _⟩
    · rfl
    · rfl
    · obtain ⟨ihFactor, ihTail⟩ := ih token rest rfl
      simp only [withStop, Bool.false_eq_true, if_false] at ihFactor ⊢
      cases multiplicative? token.kind with
      | none =>
        dsimp only
        split
        · rfl
        · cases openGroups <;> rfl
      | some op =>
        dsimp only
        rw [ihFactor]
        rcases hFactor : (⟨rest, stop₀, openGroups, false⟩ : Cursor).factor with
          ⟨e | factor, c₁⟩ <;> rw [hFactor] at ihTail
        · rfl
        · exact outcomeWithStop_tail ihTail _
    · rfl
  case factor =>
    intro c ih
    rw [factor_eq, factor_eq]
    rcases c with ⟨_ | ⟨token, rest⟩, stop₀, openGroups, groupClosed⟩
    · rfl
    obtain ⟨ihInner, ihOperand⟩ := ih token rest rfl
    have negated := outcomeWithStop_tail ihOperand Factor.negation
    simp only [withStop] at ihInner ⊢
    cases token.kind with
    | openParen =>
      dsimp only
      rw [ihInner]
      rcases (⟨rest, stop₀, openGroups + 1, groupClosed⟩ : Cursor).expression with
        ⟨e | inner, _, _, _, _ | _⟩ <;> rfl
    | minus => exact negated
    | number | plus | star | slash | closeParen | unrecognized => rfl

end Cursor

/-! ### Calls -/

/-- What can be asked of a cursor. -/
inductive Call where
  | take
  | expression
  | term
  | sumTail
  | productTail
  | factor
deriving DecidableEq, Repr

namespace Call

/-- What a call yields. -/
def Result : Call → Type
  | .take => Token
  | .expression => Expression
  | .term => Term
  | .sumTail => SumTail
  | .productTail => ProductTail
  | .factor => Factor

/-- Makes a call on a cursor. -/
def run : (call : Call) → Cursor → Except ParseError call.Result × Cursor
  | .take => Cursor.take
  | .expression => Cursor.expression
  | .term => Cursor.term
  | .sumTail => Cursor.sumTail
  | .productTail => Cursor.productTail
  | .factor => Cursor.factor

/-- The call does not bring a run of calls to an end. A rule has to succeed. To take a token may
fail as well, since that leaves the cursor as it is. -/
def GoesThrough (call : Call) (c : Cursor) : Prop :=
  call = .take ∨ ∃ result d, call.run c = (.ok result, d)

theorem run_withStop (call : Call) (stop : Nat) (c : Cursor) :
    call.run (c.withStop stop) = Cursor.outcomeWithStop stop (call.run c) := by
  obtain ⟨expression, term, sumTail, productTail, factor⟩ := Cursor.rules_withStop stop c
  cases call with
  | take => exact Cursor.take_withStop stop c
  | expression => exact expression
  | term => exact term
  | sumTail => exact sumTail
  | productTail => exact productTail
  | factor => exact factor

end Call

namespace Cursor

variable {tokens : List Token} {c d : Cursor} {leaves : List Leaf}

/-- `c.Reaches calls d`: one call after the other on the same cursor leads from `c` to `d`. -/
inductive Reaches : Cursor → List Call → Cursor → Prop where
  | nil (c : Cursor) : Reaches c [] c
  | cons {c d : Cursor} {calls : List Call} (call : Call) :
      call.GoesThrough c → Reaches (call.run c).2 calls d → Reaches c (call :: calls) d

/-! ### Between two calls -/

/-- The cursor stands somewhere in the tokens, and nothing is left over from the calls before. -/
structure Idle (tokens : List Token) (c : Cursor) : Prop where
  openGroups : c.openGroups = 0
  groupClosed : c.groupClosed = false
  stop : c.stop = (ofTokens tokens).stop
  rest : c.rest <:+ tokens

theorem idle_ofTokens (tokens : List Token) : (ofTokens tokens).Idle tokens :=
  ⟨rfl, rfl, rfl, List.suffix_rfl⟩

/-- Taking tokens leaves an idle cursor idle. -/
theorem Idle.of_takes (idle : c.Idle tokens) (h : c.Takes leaves d) : d.Idle tokens := by
  obtain ⟨openGroups, groupClosed, stop, rest⟩ := idle
  obtain ⟨taken, left, next, -⟩ := h
  exact ⟨openGroups, groupClosed, stop, (next ▸ List.suffix_append taken left).trans rest⟩

/-- To take a token leaves an idle cursor idle, whether there is one or not. -/
theorem Idle.take (idle : c.Idle tokens) : c.take.2.Idle tokens := by
  obtain ⟨openGroups, groupClosed, stop, rest⟩ := idle
  rcases c with ⟨_ | ⟨token, left⟩, _, _, _⟩
  · exact ⟨openGroups, groupClosed, stop, rest⟩
  · exact ⟨openGroups, groupClosed, stop, (List.suffix_cons token left).trans rest⟩

/-- **A call that goes through leaves an idle cursor idle.** A rule that succeeds has taken tokens
and may have closed a group that was open before; on an idle cursor there is none. -/
theorem Idle.run (idle : c.Idle tokens) {call : Call} (through : call.GoesThrough c) :
    (call.run c).2.Idle tokens := by
  rcases through with rfl | ⟨result, d, h⟩
  · exact idle.take
  have flag := idle.groupClosed
  have opened := idle.openGroups
  rw [h]
  cases call with
  | take => exact congrArg Prod.snd h ▸ idle.take
  | expression => exact idle.of_takes ((expression_ends flag h).takes opened)
  | term => exact idle.of_takes ((term_ends flag h).takes opened)
  | sumTail => exact idle.of_takes ((sumTail_ends flag h).takes opened)
  | productTail => exact idle.of_takes ((productTail_ends flag h).takes opened)
  | factor => exact idle.of_takes (factor_takes flag h)

/-- An idle cursor stays idle through every run of calls. -/
theorem Idle.reaches {calls : List Call} (run : c.Reaches calls d) (idle : c.Idle tokens) :
    d.Idle tokens := by
  induction run with
  | nil c => exact idle
  | cons call through _ ih => exact ih (idle.run through)

/-- An idle cursor is the start of the tokens that are left, with the end of the whole list. -/
theorem Idle.eq_withStop (idle : c.Idle tokens) :
    c = (ofTokens c.rest).withStop (ofTokens tokens).stop := by
  obtain ⟨openGroups, groupClosed, stop, -⟩ := idle
  rcases c with ⟨rest, _, _, _⟩
  cases openGroups
  cases groupClosed
  cases stop
  rfl

/-- **A call on an idle cursor is the same call at the start of the tokens left**, with the end of
the whole list. -/
theorem Idle.run_eq (idle : c.Idle tokens) (call : Call) :
    call.run c = outcomeWithStop (ofTokens tokens).stop (call.run (ofTokens c.rest)) := by
  rw [← call.run_withStop, ← idle.eq_withStop]

/-- **Every call finds a cursor as good as new.** Whatever calls have been made on a cursor, if no
rule among them has failed, no group is open, the flag is down and the cursor stands somewhere in
the tokens. The next call takes what it would take at the start of the tokens left and yields the
same, a result or an error; only an unexpected end is placed at the end of the whole list. -/
theorem Reaches.resumes {calls : List Call} (run : (ofTokens tokens).Reaches calls c) :
    c.openGroups = 0 ∧ c.groupClosed = false ∧
      ∃ position ≤ tokens.length, c.rest = tokens.drop position ∧
        ∀ call : Call,
          let fresh := call.run (ofTokens (tokens.drop position))
          (call.run c).1 = fresh.1.mapError (·.withStop (ofTokens tokens).stop) ∧
            (call.run c).2.rest = fresh.2.rest := by
  have idle := (idle_ofTokens tokens).reaches run
  obtain ⟨taken, whole⟩ := idle.rest
  have rest : c.rest = tokens.drop taken.length := by
    rw [← whole, List.drop_left]
  refine ⟨idle.openGroups, idle.groupClosed, taken.length, ?_, rest, ?_⟩
  · rw [← whole, List.length_append]
    exact Nat.le_add_right _ _
  · intro call
    rw [idle.run_eq call, rest]
    exact ⟨rfl, rfl⟩

/-- A group, an operator and a negation are taken from `(1)*-2` in three calls. The next call is
refused at the end of these tokens, and not at the start as on an empty list. -/
theorem Reaches.resumes_at_end :
    let tokens : List Token :=
      [⟨.openParen, "(", ⟨0, 1⟩⟩, ⟨.number, "1", ⟨1, 1⟩⟩, ⟨.closeParen, ")", ⟨2, 1⟩⟩,
        ⟨.star, "*", ⟨3, 1⟩⟩, ⟨.minus, "-", ⟨4, 1⟩⟩, ⟨.number, "2", ⟨5, 1⟩⟩]
    let c : Cursor := ⟨[], 6, 0, false⟩
    (ofTokens tokens).Reaches [.factor, .take, .factor] c ∧
      (Call.run .term (ofTokens [])).1 = .error ⟨.unexpectedEnd, ⟨0, 0⟩⟩ ∧
      (Call.run .term c).1 = .error ⟨.unexpectedEnd, ⟨6, 0⟩⟩ := by
  intro tokens c
  let behindGroup : Cursor := { ofTokens tokens with rest := tokens.drop 3 }
  let behindOperator : Cursor := { ofTokens tokens with rest := tokens.drop 4 }
  have group : Call.run .factor (ofTokens tokens) =
      (.ok (.group (.mk (.mk (.number "1") .empty) .empty)), behindGroup) := by
    cbv
  have operator : Call.run .take behindGroup = (.ok ⟨.star, "*", ⟨3, 1⟩⟩, behindOperator) := rfl
  have negation : Call.run .factor behindOperator = (.ok (.negation (.number "2")), c) := by
    cbv
  have reached : (ofTokens tokens).Reaches [.factor, .take, .factor] c := by
    refine .cons .factor (.inr ⟨_, _, group⟩) ?_
    rw [group]
    refine .cons .take (.inl rfl) ?_
    rw [operator]
    refine .cons .factor (.inr ⟨_, _, negation⟩) ?_
    rw [negation]
    exact .nil c
  have fresh : (Call.run .term (ofTokens [])).1 = .error ⟨.unexpectedEnd, ⟨0, 0⟩⟩ := by
    cbv
  refine ⟨reached, fresh, ?_⟩
  obtain ⟨-, -, position, -, rest, next⟩ := reached.resumes
  rw [(next .term).1, ← rest, fresh]
  rfl

end Cursor

end Calculator
