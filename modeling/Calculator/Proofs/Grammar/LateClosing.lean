import Calculator.Proofs.Grammar.Calls
import Calculator.Proofs.Grammar.Interruption

/-!
The count of open groups, and the flag, during a call.

The five rules share one count and one flag. What they make of them on success is said by
`Cursor.Takes` and `Cursor.Closes`: a rule that begins with the flag down leaves both as they were,
or it has taken one `)` more than the leaves of its result and left the flag up for the factor whose
group that is. What they do on the way there, and on the way to a failure, is said by the tokens
they take. Each `(` among them raises the count and each `)` lowers it, and no `)` is counted at
zero. Only a rule that fails can take a token that it does not count, a `)` where an operand has to
stand.

This holds between any two points of a run: from its start to each call nested in it, however deep,
from there to where that call ends, and from there to the end of the run. So at no point is a token
put back, or the count lowered from zero.

* `Cursor.Counts`, `Cursor.Counted`: what the tokens taken do to the count, between two cursors and
  up to an outcome.
* `Cursor.rules_counted`: every rule counts what it takes, whether it succeeds or fails.
* `Cursor.Leads.between`: so does a run from its start to a call and from the call to its end.
* `Cursor.rule_closes_late`: the ways for a rule to end, and the count on every path.
-/

namespace Calculator

namespace Cursor

variable {α β γ : Type} {c d e : Cursor} {label label' : Label}

/-! ### Rules of two parts -/

/-- One part and, behind it, another one: a failure of the first is the failure of the whole. -/
def andThen (f : α → β → γ) (first : Except ParseError α × Cursor)
    (second : Cursor → Except ParseError β × Cursor) : Except ParseError γ × Cursor :=
  match first with
  | (.error error, d) => (.error error, d)
  | (.ok a, d) => ((second d).1.map (f a), (second d).2)

theorem expression_eq_andThen (c : Cursor) :
    c.expression = andThen Expression.mk c.term sumTail := by
  rw [expression_eq]
  rcases c.term with ⟨_ | _, _⟩ <;> rfl

theorem term_eq_andThen (c : Cursor) : c.term = andThen Term.mk c.factor productTail := by
  rw [term_eq]
  rcases c.factor with ⟨_ | _, _⟩ <;> rfl

/-- Behind an operator the tail of a sum has two parts, a term and a further tail. -/
theorem sumTail_eq_andThen {token : Token} {rest : List Token} {op : Additive}
    (flag : c.groupClosed = false) (next : c.rest = token :: rest)
    (operator : additive? token.kind = some op) :
    c.sumTail = andThen (SumTail.next op) ({ c with rest } : Cursor).term sumTail := by
  rw [sumTail_eq, if_neg (by simp [flag])]
  simp only [next, operator]
  rcases ({ c with rest } : Cursor).term with ⟨_ | _, _⟩ <;> rfl

/-- Behind an operator the tail of a product has two parts, a factor and a further tail. -/
theorem productTail_eq_andThen {token : Token} {rest : List Token} {op : Multiplicative}
    (flag : c.groupClosed = false) (next : c.rest = token :: rest)
    (operator : multiplicative? token.kind = some op) :
    c.productTail =
      andThen (ProductTail.next op) ({ c with rest } : Cursor).factor productTail := by
  rw [productTail_eq, if_neg (by simp [flag])]
  simp only [next, operator]
  rcases ({ c with rest } : Cursor).factor with ⟨_ | _, _⟩ <;> rfl

/-- The tail of a sum takes nothing, or it begins with an operator. -/
theorem sumTail_cases (c : Cursor) :
    c.sumTail.2 = c ∨
      c.groupClosed = false ∧ ∃ token rest op, c.rest = token :: rest ∧
        additive? token.kind = some op := by
  rw [sumTail_eq]
  rcases c with ⟨_ | ⟨token, rest⟩, stop, openGroups, _ | _⟩
  · exact .inl rfl
  · exact .inl rfl
  · cases operator : additive? token.kind with
    | none => simp [operator]
    | some op => exact .inr ⟨rfl, token, rest, op, rfl, operator⟩
  · exact .inl rfl

/-- The tail of a product takes nothing, or the `)` of an open group, or it begins with an
operator. -/
theorem productTail_cases (c : Cursor) :
    c.productTail.2 = c ∨
      (∃ token rest n, c.rest = token :: rest ∧ token.kind = .closeParen ∧ c.openGroups = n + 1 ∧
        c.productTail.2 = { c with rest, openGroups := n, groupClosed := true }) ∨
      c.groupClosed = false ∧ ∃ token rest op, c.rest = token :: rest ∧
        multiplicative? token.kind = some op := by
  rw [productTail_eq]
  rcases c with ⟨_ | ⟨token, rest⟩, stop, openGroups, _ | _⟩
  · exact .inl rfl
  · exact .inl rfl
  · cases operator : multiplicative? token.kind with
    | none =>
      by_cases kind : token.kind = .closeParen
      · cases openGroups with
        | zero => simp [kind, multiplicative?]
        | succ n =>
          refine .inr (.inl ⟨token, rest, n, rfl, kind, rfl, ?_⟩)
          simp [kind, multiplicative?]
      · simp [operator, kind]
    | some op => exact .inr (.inr ⟨rfl, token, rest, op, rfl, operator⟩)
  · exact .inl rfl

/-! ### Tokens and the count -/

/-- Tokens have been taken from `c` to `d`. Every `(` among them has raised the count of open groups
and every `)` has lowered it, none of them at zero. -/
def Counts (c d : Cursor) : Prop :=
  ∃ taken, c.rest = taken ++ d.rest ∧
    Kind.depthAfter c.openGroups (taken.map Token.kind) = some d.openGroups

/-- From `c` on, the tokens taken have been counted. A failure may have taken one more, a `)` where
an operand has to stand, which closes no group. -/
def Counted (c : Cursor) (outcome : Except ParseError α × Cursor) : Prop :=
  c.Counts outcome.2 ∨
    ∃ d token, c.Counts d ∧ d.take = (.ok token, outcome.2) ∧ token.kind = .closeParen ∧
      outcome.1 = .error ⟨.operandExpected .closeParen, token.span⟩

/-- Where no token is taken the count stays. The flag does not matter. -/
theorem counts_of_eq (rest : c.rest = d.rest) (openGroups : c.openGroups = d.openGroups) :
    c.Counts d :=
  ⟨[], rest, by rw [List.map_nil, Kind.depthAfter_nil, openGroups]⟩

theorem counts_self (c : Cursor) : c.Counts c := counts_of_eq rfl rfl

theorem Counts.trans (h : c.Counts d) (next : d.Counts e) : c.Counts e := by
  obtain ⟨first, rest, count⟩ := h
  obtain ⟨second, restNext, countNext⟩ := next
  refine ⟨first ++ second, by rw [rest, restNext, List.append_assoc], ?_⟩
  rw [List.map_append, Kind.depthAfter_append, count]
  exact countNext

/-- One token is taken, and the count goes where the token takes it. -/
theorem counts_token {token : Token} {rest : List Token} {n : Nat} {flag : Bool}
    (next : c.rest = token :: rest) (deepens : Kind.deepen c.openGroups token.kind = some n) :
    c.Counts { c with rest, openGroups := n, groupClosed := flag } :=
  ⟨[token], next, by simp [deepens]⟩

/-- A token that is no parenthesis is taken and leaves the count alone. -/
theorem counts_other {token : Token} {rest : List Token} (next : c.rest = token :: rest)
    (noOpen : token.kind ≠ .openParen) (noClose : token.kind ≠ .closeParen) :
    c.Counts { c with rest } := by
  refine counts_token next ?_
  cases kind : token.kind <;> first | contradiction | cases c.openGroups <;> rfl

theorem counts_additive {token : Token} {rest : List Token} {op : Additive}
    (next : c.rest = token :: rest) (operator : additive? token.kind = some op) :
    c.Counts { c with rest } := by
  obtain ⟨noOpen, noClose⟩ := not_paren_of_additive operator
  exact counts_other next noOpen noClose

theorem counts_multiplicative {token : Token} {rest : List Token} {op : Multiplicative}
    (next : c.rest = token :: rest) (operator : multiplicative? token.kind = some op) :
    c.Counts { c with rest } := by
  obtain ⟨noOpen, noClose⟩ := not_paren_of_multiplicative operator
  exact counts_other next noOpen noClose

theorem counts_open {token : Token} {rest : List Token} (next : c.rest = token :: rest)
    (kind : token.kind = .openParen) : c.Counts { c with rest, openGroups := c.openGroups + 1 } :=
  counts_token next (by rw [kind]; rfl)

theorem counts_close {token : Token} {rest : List Token} {n : Nat} (next : c.rest = token :: rest)
    (kind : token.kind = .closeParen) (opened : c.openGroups = n + 1) :
    c.Counts { c with rest, openGroups := n, groupClosed := true } :=
  counts_token next (by rw [kind, opened]; rfl)

theorem Counts.counted (h : c.Counts d) {outcome : Except ParseError α × Cursor}
    (next : d.Counted outcome) : c.Counted outcome :=
  next.imp h.trans fun ⟨b, token, counts, rest⟩ => ⟨b, token, h.trans counts, rest⟩

/-- A success has counted all that it took. -/
theorem counted_ok_iff {a : α} : c.Counted (.ok a, d) ↔ c.Counts d :=
  or_iff_left fun ⟨_, _, _, _, _, error⟩ => nomatch error

theorem counted_map_iff {f : α → β} {outcome : Except ParseError α × Cursor} :
    c.Counted (outcome.1.map f, outcome.2) ↔ c.Counted outcome := by
  rcases outcome with ⟨error | a, d⟩
  · simp [Counted, Except.map]
  · simp [Counted, Except.map]

alias ⟨Counted.of_map, Counted.map⟩ := counted_map_iff

/-- A failure that is handed on, as the failure of a rule that yields something else. -/
theorem Counted.error {error : ParseError}
    (h : c.Counted (α := α) (.error error, d)) : c.Counted (α := β) (.error error, d) :=
  h.imp_right fun ⟨b, token, counts, took, kind, same⟩ =>
    ⟨b, token, counts, took, kind, by cases same; rfl⟩

/-- A rule of two parts has counted what it took if both parts have. -/
theorem Counted.andThen {f : α → β → γ} {first : Except ParseError α × Cursor}
    {second : Cursor → Except ParseError β × Cursor} (h : c.Counted first)
    (next : first.2.Counted (second first.2)) : c.Counted (andThen f first second) := by
  rcases first with ⟨error | a, d⟩
  · exact h.error
  · exact (counted_ok_iff.mp h).counted next.map

/-- What a factor makes of the expression inside a group: the flag is lowered, or the group is
refused, and no further token is taken. -/
theorem Counted.group {inner : Except ParseError Expression × Cursor} {opening : Span} :
    c.Counted inner →
      c.Counted (α := Factor)
        (match inner with
        | (.error error, d) => (.error error, d)
        | (.ok inner, d) =>
          if d.groupClosed then (.ok (.group inner), { d with groupClosed := false })
          else (.error ⟨.unclosedParen, opening⟩, d)) := by
  intro h
  rcases inner with ⟨error | inner, d⟩
  · exact h.error
  · have counts := counted_ok_iff.mp h
    dsimp only
    split
    · exact .inl (counts.trans (counts_of_eq rfl rfl))
    · exact .inl counts

/-! ### The rules -/

/-- **Every rule counts what it takes**, on success and on failure, whatever the flag. -/
theorem rules_counted : ∀ c : Cursor, c.Counted c.expression ∧ c.Counted c.term ∧
    c.Counted c.sumTail ∧ c.Counted c.productTail ∧ c.Counted c.factor := by
  refine rules_induction ?expression ?term ?sumTail ?productTail ?factor
  case expression =>
    intro c term tail
    rw [expression_eq_andThen]
    exact term.andThen tail
  case term =>
    intro c factor tail
    rw [term_eq_andThen]
    exact factor.andThen tail
  case sumTail =>
    intro c ih
    rcases c.sumTail_cases with stays | ⟨flag, token, rest, op, next, operator⟩
    · exact .inl (stays.symm ▸ counts_self c)
    · obtain ⟨term, tail⟩ := ih token rest next
      rw [sumTail_eq_andThen flag next operator]
      exact (counts_additive next operator).counted (term.andThen tail)
  case productTail =>
    intro c ih
    rcases c.productTail_cases with stays | ⟨token, rest, n, next, kind, opened, closes⟩ |
      ⟨flag, token, rest, op, next, operator⟩
    · exact .inl (stays.symm ▸ counts_self c)
    · exact .inl (closes.symm ▸ counts_close next kind opened)
    · obtain ⟨factor, tail⟩ := ih token rest next
      rw [productTail_eq_andThen flag next operator]
      exact (counts_multiplicative next operator).counted (factor.andThen tail)
  case factor =>
    intro c ih
    rw [factor_eq]
    split
    · exact .inl (counts_self c)
    · next token rest next =>
      obtain ⟨inner, operand⟩ := ih token rest next
      cases kind : token.kind with
      | openParen => exact (counts_open next kind).counted inner.group
      | minus =>
        have taken := counts_other next (by simp [kind]) (by simp [kind])
        exact taken.counted operand.map
      | closeParen =>
        -- Taken and refused: the one token that is not counted.
        refine .inr ⟨c, token, counts_self c, ?_, kind, rfl⟩
        rw [take, next]
      | number | plus | star | slash | unrecognized =>
        exact .inl (counts_other next (by simp [kind]) (by simp [kind]))

/-! ### Calls inside a run -/

/-- Runs the rule that a label names: the labelled tree of its result, or its error, and the cursor
behind it. -/
def rule (c : Cursor) : Label → Except ParseError Tree × Cursor
  | .expression => (c.expression.1.map Expression.toTree, c.expression.2)
  | .term => (c.term.1.map Term.toTree, c.term.2)
  | .sumTail => (c.sumTail.1.map SumTail.toTree, c.sumTail.2)
  | .productTail => (c.productTail.1.map ProductTail.toTree, c.productTail.2)
  | .factor => (c.factor.1.map Factor.toTree, c.factor.2)

theorem rule_counted (c : Cursor) (label : Label) : c.Counted (c.rule label) := by
  obtain ⟨expression, term, sumTail, productTail, factor⟩ := rules_counted c
  cases label with
  | expression => exact expression.map
  | term => exact term.map
  | sumTail => exact sumTail.map
  | productTail => exact productTail.map
  | factor => exact factor.map

/-- The tokens that a run takes before it makes a call are counted. -/
theorem Calls.counts (calls : c.Calls label label' d) : c.Counts d := by
  cases calls with
  | expressionTerm | termFactor => exact counts_self c
  | expressionTail h => exact counted_ok_iff.mp (h ▸ (rules_counted c).2.1)
  | termTail h => exact counted_ok_iff.mp (h ▸ (rules_counted c).2.2.2.2)
  | sumTerm _ next operator => exact counts_additive next operator
  | sumTail _ next operator h =>
    have term := counted_ok_iff.mp (h ▸ (rules_counted _).2.1)
    exact (counts_additive next operator).trans term
  | productFactor _ next operator => exact counts_multiplicative next operator
  | productTail _ next operator h =>
    have factor := counted_ok_iff.mp (h ▸ (rules_counted _).2.2.2.2)
    exact (counts_multiplicative next operator).trans factor
  | groupInner next kind => exact counts_open next kind
  | negationOperand next kind => exact counts_other next (by simp [kind]) (by simp [kind])

/-- What a run takes after a call that it makes is counted: if all is counted up to the end of the
call, it is counted up to the end of the run. -/
theorem Calls.counted (calls : c.Calls label label' d) (h : e.Counted (d.rule label')) :
    e.Counted (c.rule label) := by
  cases calls with
  | expressionTerm =>
    refine Counted.map ?_
    rw [expression_eq_andThen]
    exact h.of_map.andThen (rules_counted _).2.2.1
  | termFactor =>
    refine Counted.map ?_
    rw [term_eq_andThen]
    exact h.of_map.andThen (rules_counted _).2.2.2.1
  | sumTerm flag next operator =>
    refine Counted.map ?_
    rw [sumTail_eq_andThen flag next operator]
    exact h.of_map.andThen (rules_counted _).2.2.1
  | productFactor flag next operator =>
    refine Counted.map ?_
    rw [productTail_eq_andThen flag next operator]
    exact h.of_map.andThen (rules_counted _).2.2.2.1
  | groupInner next kind =>
    refine Counted.map ?_
    rw [factor_eq]
    simp only [next, kind]
    exact h.of_map.group
  -- The last call of a rule ends where the rule does.
  | expressionTail first =>
    refine Counted.map ?_
    rw [expression_eq_andThen, first]
    exact h.of_map.map
  | termTail first =>
    refine Counted.map ?_
    rw [term_eq_andThen, first]
    exact h.of_map.map
  | sumTail flag next operator first =>
    refine Counted.map ?_
    rw [sumTail_eq_andThen flag next operator, first]
    exact h.of_map.map
  | productTail flag next operator first =>
    refine Counted.map ?_
    rw [productTail_eq_andThen flag next operator, first]
    exact h.of_map.map
  | negationOperand next kind =>
    refine Counted.map ?_
    rw [factor_eq]
    simp only [next, kind]
    exact h.of_map.map

/-- **Between any two points of a run tokens are only taken, and counted**: from its start to a call
nested in it, and from where the call ends to the end of the run. -/
theorem Leads.between {path : List (Label × Cursor)} (leads : c.Leads label path) :
    ∀ call ∈ path, c.Counts call.2 ∧ (call.2.rule call.1).2.Counted (c.rule label) := by
  induction leads with
  | run => simp
  | call calls _ ih =>
    rw [List.forall_mem_cons]
    refine ⟨⟨calls.counts, calls.counted (.inl (counts_self _))⟩, ?_⟩
    intro call member
    obtain ⟨before, behind⟩ := ih call member
    exact ⟨calls.counts.trans before, calls.counted behind⟩

/-! ### The ways for a rule to end -/

/-- A rule that begins with the flag down and succeeds ends in one of the two ways, and a factor in
the first. -/
theorem rule_ends (flag : c.groupClosed = false) {t : Tree} (h : c.rule label = (.ok t, d)) :
    c.Takes t.leaves d ∨ label ≠ .factor ∧ c.Closes t.leaves d := by
  cases label with
  | expression =>
    obtain ⟨e, run, rfl⟩ := map_outcome_eq_ok.mp (Prod.mk.inj h)
    exact (expression_ends flag run).imp_right fun closes => ⟨nofun, closes⟩
  | term =>
    obtain ⟨e, run, rfl⟩ := map_outcome_eq_ok.mp (Prod.mk.inj h)
    exact (term_ends flag run).imp_right fun closes => ⟨nofun, closes⟩
  | sumTail =>
    obtain ⟨e, run, rfl⟩ := map_outcome_eq_ok.mp (Prod.mk.inj h)
    exact (sumTail_ends flag run).imp_right fun closes => ⟨nofun, closes⟩
  | productTail =>
    obtain ⟨e, run, rfl⟩ := map_outcome_eq_ok.mp (Prod.mk.inj h)
    exact (productTail_ends flag run).imp_right fun closes => ⟨nofun, closes⟩
  | factor =>
    obtain ⟨e, run, rfl⟩ := map_outcome_eq_ok.mp (Prod.mk.inj h)
    exact .inl (factor_takes flag run)

/-- **Groups close late.** A rule that begins with the flag down and succeeds has taken the tokens
of its leaves and nothing else has changed; or, if some group is open and the rule is no factor, it
has taken one `)` behind them, closed that group and left the flag up. With the flag up both tails
are empty and take nothing. Whatever the flag, and however a rule ends, it only takes tokens from
the front of those that are left, and so does everything that is called on the way; and the count of
open groups follows the parentheses among them, from the start to each call and from there to the
end, and is never lowered from zero. -/
theorem rule_closes_late (c : Cursor) (label : Label) :
    (c.groupClosed = false → ∀ t d, c.rule label = (.ok t, d) →
      c.Takes t.leaves d ∨ label ≠ .factor ∧ c.Closes t.leaves d) ∧
    (c.groupClosed = true → label = .sumTail ∨ label = .productTail →
      c.rule label = (.ok (.node label []), c)) ∧
    c.Counted (c.rule label) ∧
    ∀ path, c.Leads label path → ∀ call ∈ path,
      c.Counts call.2 ∧ call.2.Counted (call.2.rule call.1) ∧
        (call.2.rule call.1).2.Counted (c.rule label) := by
  refine ⟨fun flag t d h => rule_ends flag h, ?_, rule_counted c label, ?_⟩
  · rintro closed (rfl | rfl)
    · simp only [rule, sumTail_of_groupClosed closed]
      rfl
    · simp only [rule, productTail_of_groupClosed closed]
      rfl
  · intro path leads call member
    obtain ⟨before, behind⟩ := leads.between call member
    exact ⟨before, rule_counted call.2 call.1, behind⟩

/-- Inside the group of `(2)*3` a term takes the `2`, and the tail that it calls for takes the `)`.
The tail of the next call takes nothing, and a factor is refused at the operator. -/
theorem rule_closes_late_inside_group :
    let tokens : List Token :=
      [⟨.number, "2", ⟨1, 1⟩⟩, ⟨.closeParen, ")", ⟨2, 1⟩⟩, ⟨.star, "*", ⟨3, 1⟩⟩,
        ⟨.number, "3", ⟨4, 1⟩⟩]
    let c : Cursor := ⟨tokens, 5, 1, false⟩
    let atClose : Cursor := ⟨tokens.drop 1, 5, 1, false⟩
    let d : Cursor := ⟨tokens.drop 2, 5, 0, true⟩
    let t := (Term.mk (.number "2") .empty).toTree
    c.rule .term = (.ok t, d) ∧ c.Closes t.leaves d ∧
      d.rule .productTail = (.ok (.node .productTail []), d) ∧
      c.Leads .term [(.productTail, atClose)] ∧ c.Counts atClose ∧
      atClose.Counted (atClose.rule .productTail) ∧
      (d.rule .factor).1 = .error ⟨.operandExpected .star, ⟨3, 1⟩⟩ ∧
      d.Counted (d.rule .factor) := by
  intro tokens c atClose d t
  have number : c.factor = (.ok (.number "2"), atClose) := by cbv
  have product : c.term = (.ok (.mk (.number "2") .empty), d) := by cbv
  have term : c.rule .term = (.ok t, d) := by
    rw [rule, product]
    rfl
  have leads : c.Leads .term [(.productTail, atClose)] := .call (.termTail number) (.run _ _)
  have closes : c.Closes t.leaves d := by
    rcases (rule_closes_late c .term).1 rfl t d term with takes | ⟨-, closes⟩
    · cases takes.groupClosed_eq
    · exact closes
  have nested := (rule_closes_late c .term).2.2.2 _ leads _ (List.mem_singleton_self _)
  have star : d.factor =
      (.error ⟨.operandExpected .star, ⟨3, 1⟩⟩, ⟨tokens.drop 3, 5, 0, true⟩) := by
    cbv
  have refused : (d.rule .factor).1 = .error ⟨.operandExpected .star, ⟨3, 1⟩⟩ := by
    rw [rule, star]
    rfl
  exact ⟨term, closes, (rule_closes_late d .productTail).2.1 rfl (.inr rfl), leads, nested.1,
    nested.2.1, refused, (rule_closes_late d .factor).2.2.1⟩

end Cursor

end Calculator
