import Calculator.Proofs.Grammar.Resumption

/-!
One cursor after calls that failed.

A rule that fails leaves the cursor at the token it refused and does not undo what it counted: a `(`
taken before stays an open group, with no factor left to finish it. Calls may go on from there. A
factor still knows its own group by the flag, as long as the flag is down when the factor begins.
Then a group that it yields begins with its `(`, ends with its `)` and is balanced in between, and
an expression that stops short of the `)` is refused.

The flag can be up between two calls, but not without a failure before. Take a group left open by a
call that failed, and let a later call meet a `)`: that call closes the group and raises the flag,
and no factor is there to lower it. The next factor takes the raised flag for its own, and a `(`
that is never closed passes for a group.

* `Cursor.after`: the cursor behind any calls, successful or failed.
* `Cursor.rules_tally`: the parentheses that a rule takes, with the flag before and behind it.
* `Cursor.encloses_iff`: a group is enclosed if and only if the flag was down.
* `Cursor.factor_of_unclosed`: a factor with the flag down refuses a group that is not closed.
* `Cursor.encloses_after_calls`: groups after any calls.
* `Cursor.not_encloses_after_failure`: a group that is not closed, after a call that failed.
-/

namespace Calculator

namespace Cursor

variable {tokens : List Token} {c d : Cursor}

/-- The cursor behind some calls, one after the other, whether each succeeds or fails. To look at
the next token is no call, since it leaves the cursor as it is. -/
def after (c : Cursor) (calls : List Call) : Cursor :=
  calls.foldl (fun d call => (call.run d).2) c

@[simp] theorem after_nil (c : Cursor) : c.after [] = c := rfl

@[simp] theorem after_cons (c : Cursor) (call : Call) (calls : List Call) :
    c.after (call :: calls) = (call.run c).2.after calls := rfl

/-- What is taken from `c` to `d` begins with a `(`, ends with a `)` and is balanced in between. -/
def Encloses (c d : Cursor) : Prop :=
  ∃ opening between closing, c.rest = opening :: (between ++ closing :: d.rest) ∧
    opening.kind = .openParen ∧ closing.kind = .closeParen ∧
    Kind.Balanced (between.map Token.kind)

/-! ### Parentheses and the flag

A `)` raises the flag and a group lowers it. So the `)` that a rule takes and the flag it begins
with make up for the `(` that it takes and the flag it leaves, whatever groups they belong to. -/

/-- Tokens have been taken from `c` to `d`, and a raised flag at `c` counted as a `)` and one at `d`
as a `(`, there are as many of one sort as of the other. -/
def Tallies (c d : Cursor) : Prop :=
  ∃ taken, c.rest = taken ++ d.rest ∧
    (taken.map Token.kind).count .openParen + d.groupClosed.toNat =
      (taken.map Token.kind).count .closeParen + c.groupClosed.toNat

theorem tallies_self (c : Cursor) : c.Tallies c := ⟨[], rfl, rfl⟩

theorem Tallies.trans {e : Cursor} (h : c.Tallies d) (next : d.Tallies e) : c.Tallies e := by
  obtain ⟨first, taken, count⟩ := h
  obtain ⟨second, takenNext, countNext⟩ := next
  refine ⟨first ++ second, by rw [taken, takenNext, List.append_assoc], ?_⟩
  rw [List.map_append, List.count_append, List.count_append]
  omega

theorem tallies_token {token : Token} {rest : List Token} (next : c.rest = token :: rest)
    (noOpen : token.kind ≠ .openParen) (noClose : token.kind ≠ .closeParen) :
    c.Tallies { c with rest } :=
  ⟨[token], next, by simp [noOpen, noClose]⟩

/-- The `)` of a group raises the flag. -/
theorem tallies_close {token : Token} {rest : List Token} {n : Nat} (flag : c.groupClosed = false)
    (next : c.rest = token :: rest) (kind : token.kind = .closeParen) :
    c.Tallies { c with rest, openGroups := n, groupClosed := true } :=
  ⟨[token], next, by simp [kind, flag]⟩

/-- A group lowers the flag that it finds behind its expression. -/
theorem Tallies.group {token : Token} {rest : List Token} (next : c.rest = token :: rest)
    (kind : token.kind = .openParen)
    (inner : ({ c with rest, openGroups := c.openGroups + 1 } : Cursor).Tallies d)
    (closed : d.groupClosed = true) : c.Tallies { d with groupClosed := false } := by
  obtain ⟨taken, rest_eq, count⟩ := inner
  refine ⟨token :: taken, ?_, ?_⟩
  · rw [next, show rest = taken ++ d.rest from rest_eq]
    rfl
  · rw [closed] at count
    simp only [List.map_cons, kind, List.count_cons_self, Bool.toNat_false, Bool.toNat_true,
      List.count_cons_of_ne (show Kind.openParen ≠ .closeParen by decide)] at count ⊢
    exact count

/-- The operators are no parentheses. -/
theorem not_paren_of_additive {kind : Kind} {op : Additive} (h : additive? kind = some op) :
    kind ≠ .openParen ∧ kind ≠ .closeParen := by
  constructor <;> rintro rfl <;> cases h

theorem not_paren_of_multiplicative {kind : Kind} {op : Multiplicative}
    (h : multiplicative? kind = some op) : kind ≠ .openParen ∧ kind ≠ .closeParen := by
  constructor <;> rintro rfl <;> cases h

/-- **The parentheses that a rule takes on success are even but for the flag** before it and behind
it. -/
theorem rules_tally : ∀ c : Cursor,
    (∀ e d, c.expression = (.ok e, d) → c.Tallies d) ∧
      (∀ e d, c.term = (.ok e, d) → c.Tallies d) ∧
      (∀ e d, c.sumTail = (.ok e, d) → c.Tallies d) ∧
      (∀ e d, c.productTail = (.ok e, d) → c.Tallies d) ∧
      (∀ e d, c.factor = (.ok e, d) → c.Tallies d) := by
  refine rules_induction ?expression ?term ?sumTail ?productTail ?factor
  case expression =>
    intro c ihTerm ihTail e d h
    obtain ⟨term, c₁, tail, hTerm, hTail, rfl⟩ := expression_eq_ok.mp h
    rw [hTerm] at ihTail
    exact (ihTerm term c₁ hTerm).trans (ihTail tail d hTail)
  case term =>
    intro c ihFactor ihTail e d h
    obtain ⟨factor, c₁, tail, hFactor, hTail, rfl⟩ := term_eq_ok.mp h
    rw [hFactor] at ihTail
    exact (ihFactor factor c₁ hFactor).trans (ihTail tail d hTail)
  case sumTail =>
    intro c ih e d h
    obtain ⟨rfl, rfl, -⟩ | ⟨-, token, rest, op, term, c₁, tail, next, hOp, hTerm, hTail, rfl⟩ :=
      sumTail_eq_ok.mp h
    · exact tallies_self _
    · obtain ⟨ihTerm, ihTail⟩ := ih token rest next
      rw [hTerm] at ihTail
      obtain ⟨noOpen, noClose⟩ := not_paren_of_additive hOp
      have operator := tallies_token next noOpen noClose
      exact operator.trans ((ihTerm term c₁ hTerm).trans (ihTail tail d hTail))
  case productTail =>
    intro c ih e d h
    obtain ⟨rfl, rfl, -⟩ | ⟨rfl, flag, token, rest, n, next, kind, -, rfl⟩ |
      ⟨-, token, rest, op, factor, c₁, tail, next, hOp, hFactor, hTail, rfl⟩ :=
      productTail_eq_ok.mp h
    · exact tallies_self _
    · exact tallies_close flag next kind
    · obtain ⟨ihFactor, ihTail⟩ := ih token rest next
      rw [hFactor] at ihTail
      obtain ⟨noOpen, noClose⟩ := not_paren_of_multiplicative hOp
      have operator := tallies_token next noOpen noClose
      exact operator.trans ((ihFactor factor c₁ hFactor).trans (ihTail tail d hTail))
  case factor =>
    intro c ih e d h
    obtain ⟨token, rest, next, cases⟩ := factor_eq_ok.mp h
    obtain ⟨ihInner, ihOperand⟩ := ih token rest next
    obtain ⟨kind, inner, c₁, hInner, closed, rfl, rfl⟩ | ⟨kind, operand, hOperand, rfl⟩ |
      ⟨kind, rfl, rfl⟩ := cases
    · exact (ihInner inner c₁ hInner).group next kind closed
    · have minus := tallies_token next (by simp [kind]) (by simp [kind])
      exact minus.trans (ihOperand operand d hOperand)
    · exact tallies_token next (by simp [kind]) (by simp [kind])

/-! ### Groups and the flag -/

/-- A group that is yielded with the flag down at the start has been taken from its `(` to its
`)`. -/
theorem encloses_of_factor (flag : c.groupClosed = false) {inner : Expression}
    (h : c.factor = (.ok (.group inner), d)) : c.Encloses d := by
  obtain ⟨taken, rest, next, spells⟩ := factor_takes flag h
  rw [Factor.leaves_group] at spells
  cases spells with
  | @cons opening _ _ _ spellsOpen spells =>
    obtain ⟨between, _, rfl, spellsBetween, spellsClose⟩ := exists_append_of_spells spells
    cases spellsClose with
    | @cons closing _ _ _ spellsClose nothing =>
      cases nothing
      refine ⟨opening, between, closing, ?_, spellsOpen.1, spellsClose.1, ?_⟩
      · rw [next, List.cons_append, List.append_assoc]
        rfl
      · rw [Kind.Balanced, map_kind_of_spells spellsBetween]
        exact inner.depthAfter_leaves 0

/-- Enclosed tokens have as many `(` as `)`, so the flag is at the end what it was at the start. -/
theorem Encloses.groupClosed_eq (h : c.Encloses d) (tally : c.Tallies d) :
    d.groupClosed = c.groupClosed := by
  obtain ⟨opening, between, closing, took, kindOpen, kindClose, balanced⟩ := h
  obtain ⟨taken, rest, count⟩ := tally
  have same : taken ++ d.rest = (opening :: (between ++ [closing])) ++ d.rest := by
    rw [← rest, took]
    simp
  have even := Kind.count_of_depthAfter balanced
  rw [List.append_cancel_right same] at count
  simp only [List.map_cons, List.map_append, List.map_nil, kindOpen, kindClose, List.count_append,
    List.count_cons_self, List.count_nil,
    List.count_cons_of_ne (show Kind.openParen ≠ .closeParen by decide),
    List.count_cons_of_ne (show Kind.closeParen ≠ .openParen by decide)] at count
  have injective : ∀ flag flag' : Bool, flag.toNat = flag'.toNat → flag = flag' := by decide
  exact injective _ _ (by omega)

/-- A group leaves the flag down. -/
theorem groupClosed_of_group {inner : Expression} (h : c.factor = (.ok (.group inner), d)) :
    d.groupClosed = false := by
  obtain ⟨_, _, _, ⟨_, _, _, _, _, _, rfl⟩ | ⟨_, _, _, other⟩ | ⟨_, other, _⟩⟩ :=
    factor_eq_ok.mp h
  · rfl
  · cases other
  · cases other

/-- **A group is enclosed if and only if the flag was down when the factor began.** With the flag
up the factor gets by without one `)`. -/
theorem encloses_iff {inner : Expression} (h : c.factor = (.ok (.group inner), d)) :
    c.Encloses d ↔ c.groupClosed = false := by
  constructor
  · intro encloses
    have tally := (rules_tally c).2.2.2.2 _ d h
    rw [← encloses.groupClosed_eq tally, groupClosed_of_group h]
  · intro flag
    exact encloses_of_factor flag h

/-- A `)` behind balanced tokens leaves them unbalanced. -/
theorem not_balanced_closeParen {before : List Kind} (balanced : Kind.Balanced before) :
    ¬ Kind.Balanced (before ++ [.closeParen]) := by
  intro again
  rw [Kind.Balanced, Kind.depthAfter_append, balanced] at again
  cases again

/-- An expression inside a group that takes balanced tokens only has not met the `)` of the group,
and the group is refused at its `(`. -/
theorem factor_of_unclosed (flag : c.groupClosed = false) {token : Token}
    {rest taken : List Token} {inner : Expression} (next : c.rest = token :: rest)
    (kind : token.kind = .openParen)
    (h : ({ c with rest, openGroups := c.openGroups + 1 } : Cursor).expression = (.ok inner, d))
    (took : rest = taken ++ d.rest) (balanced : Kind.Balanced (taken.map Token.kind)) :
    c.factor = (.error ⟨.unclosedParen, token.span⟩, d) := by
  have flagDown : d.groupClosed = false := by
    let inside : Cursor := { c with rest, openGroups := c.openGroups + 1 }
    rcases expression_ends (c := inside) flag h with ends | ends
    · exact ends.groupClosed_eq.trans flag
    · obtain ⟨spelling, close, rest', n, both, spells, kindClose, -⟩ := ends
      have same : spelling ++ [close] ++ rest' = taken ++ rest' := by
        rw [List.append_assoc]
        exact both.symm.trans took
      rw [← List.append_cancel_right same, List.map_append, List.map_singleton, kindClose,
        map_kind_of_spells spells] at balanced
      exact absurd balanced (not_balanced_closeParen (inner.depthAfter_leaves 0))
  rw [factor_eq]
  simp [next, kind, h, flagDown]

/-! ### After any calls -/

/-- The flag is up behind some calls only if one among them has failed. -/
theorem Idle.exists_failure {calls : List Call} (idle : c.Idle tokens)
    (flag : (c.after calls).groupClosed = true) :
    ∃ before call behind, calls = before ++ call :: behind ∧
      ¬ call.GoesThrough (c.after before) := by
  induction calls generalizing c with
  | nil =>
    rw [after_nil, idle.groupClosed] at flag
    cases flag
  | cons call calls ih =>
    by_cases through : call.GoesThrough c
    · obtain ⟨before, failed, behind, rfl, fails⟩ := ih (idle.run through) flag
      exact ⟨call :: before, failed, behind, rfl, fails⟩
    · exact ⟨[], call, calls, rfl, through⟩

/-- **Groups after any calls.** Let a cursor have served calls, successful or failed, in any order.
A group that the next factor yields has been taken from its `(` to its `)` with balanced tokens in
between if and only if the flag is down. If it is down, a factor whose inner expression is done
without having taken the `)` fails with an unclosed group. It is up only if a rule has failed. -/
theorem encloses_after_calls (tokens : List Token) (calls : List Call) :
    let c := (ofTokens tokens).after calls
    (∀ inner d, c.factor = (.ok (.group inner), d) → (c.Encloses d ↔ c.groupClosed = false)) ∧
    (c.groupClosed = false →
      ∀ token rest inner d taken, c.rest = token :: rest → token.kind = .openParen →
        ({ c with rest, openGroups := c.openGroups + 1 } : Cursor).expression = (.ok inner, d) →
        rest = taken ++ d.rest → Kind.Balanced (taken.map Token.kind) →
        c.factor = (.error ⟨.unclosedParen, token.span⟩, d)) ∧
    (c.groupClosed = true →
      ∃ before call behind, calls = before ++ call :: behind ∧
        ¬ call.GoesThrough ((ofTokens tokens).after before)) := by
  intro c
  refine ⟨fun inner d h => encloses_iff h, ?_, (idle_ofTokens tokens).exists_failure⟩
  intro flag token rest inner d taken next kind h took balanced
  exact factor_of_unclosed flag next kind h took balanced

/-- A factor fails at the operator of `(*(1+2)(3` and leaves its group open. All the same the next
factor is the group behind it, and the last is refused. -/
theorem encloses_after_calls_past_failure :
    let tokens : List Token :=
      [⟨.openParen, "(", ⟨0, 1⟩⟩, ⟨.star, "*", ⟨1, 1⟩⟩, ⟨.openParen, "(", ⟨2, 1⟩⟩,
        ⟨.number, "1", ⟨3, 1⟩⟩, ⟨.plus, "+", ⟨4, 1⟩⟩, ⟨.number, "2", ⟨5, 1⟩⟩,
        ⟨.closeParen, ")", ⟨6, 1⟩⟩, ⟨.openParen, "(", ⟨7, 1⟩⟩, ⟨.number, "3", ⟨8, 1⟩⟩]
    let c : Cursor := ⟨tokens.drop 2, 9, 1, false⟩
    let d : Cursor := ⟨tokens.drop 7, 9, 1, false⟩
    (ofTokens tokens).after [.factor] = c ∧ (ofTokens tokens).after [.factor, .factor] = d ∧
      c.Encloses d ∧ d.factor = (.error ⟨.unclosedParen, ⟨7, 1⟩⟩, ⟨[], 9, 2, false⟩) := by
  intro tokens c d
  let sum : Expression :=
    .mk (.mk (.number "1") .empty) (.next .plus (.mk (.number "2") .empty) .empty)
  let three : Expression := .mk (.mk (.number "3") .empty) .empty
  have refused : Call.run .factor (ofTokens tokens) =
      (.error ⟨.operandExpected .star, ⟨1, 1⟩⟩, c) := by
    cbv
  have group : Call.run .factor c = (.ok (.group sum), d) := by cbv
  have failed : (ofTokens tokens).after [.factor] = c := by
    rw [after_cons, refused, after_nil]
  have behind : (ofTokens tokens).after [.factor, .factor] = d := by
    rw [after_cons, refused, after_cons, group, after_nil]
  have inner : (⟨tokens.drop 8, 9, 2, false⟩ : Cursor).expression =
      (.ok three, ⟨[], 9, 2, false⟩) := by
    cbv
  have enclosed : c.Encloses d :=
    failed ▸ ((encloses_after_calls tokens [.factor]).1 sum d (failed ▸ group)).mpr (failed ▸ rfl)
  have unclosed := (encloses_after_calls tokens [.factor, .factor]).2.1 (behind ▸ rfl)
    ⟨.openParen, "(", ⟨7, 1⟩⟩ (tokens.drop 8) three ⟨[], 9, 2, false⟩ (tokens.drop 8)
    (behind ▸ rfl) rfl (behind ▸ inner) rfl (by decide)
  exact ⟨failed, behind, enclosed, behind ▸ unclosed⟩

/-- **A group that is not closed, after a call that failed.** A factor fails at the operator of
`(*1)(1`, and the term called next takes the `)` for the group left open. The factor called then
takes `(` and `1`, the last of the tokens, and yields a group. -/
theorem not_encloses_after_failure :
    let tokens : List Token :=
      [⟨.openParen, "(", ⟨0, 1⟩⟩, ⟨.star, "*", ⟨1, 1⟩⟩, ⟨.number, "1", ⟨2, 1⟩⟩,
        ⟨.closeParen, ")", ⟨3, 1⟩⟩, ⟨.openParen, "(", ⟨4, 1⟩⟩, ⟨.number, "1", ⟨5, 1⟩⟩]
    let c := (ofTokens tokens).after [.factor, .term]
    let d : Cursor := ⟨[], 6, 1, false⟩
    c.rest = tokens.drop 4 ∧
      c.factor = (.ok (.group (.mk (.mk (.number "1") .empty) .empty)), d) ∧ ¬ c.Encloses d := by
  intro tokens c d
  have refused : Call.run .factor (ofTokens tokens) =
      (.error ⟨.operandExpected .star, ⟨1, 1⟩⟩, ⟨tokens.drop 2, 6, 1, false⟩) := by
    cbv
  have closed : Call.run .term ⟨tokens.drop 2, 6, 1, false⟩ =
      (.ok (.mk (.number "1") .empty), ⟨tokens.drop 4, 6, 0, true⟩) := by
    cbv
  have reached : c = ⟨tokens.drop 4, 6, 0, true⟩ := by
    show (ofTokens tokens).after [.factor, .term] = _
    rw [after_cons, refused, after_cons, closed, after_nil]
  have group : (⟨tokens.drop 4, 6, 0, true⟩ : Cursor).factor =
      (.ok (.group (.mk (.mk (.number "1") .empty) .empty)), ⟨[], 6, 1, false⟩) := by
    cbv
  rw [reached]
  refine ⟨rfl, group, ?_⟩
  intro encloses
  have down := (encloses_iff group).mp encloses
  cases down

end Cursor

end Calculator
