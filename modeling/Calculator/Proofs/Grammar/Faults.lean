import Calculator.Proofs.Grammar.Rules

/-!
Where parsing fails.

A rule that fails points at a token it has looked at, or behind the last token of the input. The
second it does for one fault alone, an operand that is missing where nothing follows, and it never
does the first for that fault. The other faults come with the token at hand, and a group that is not
closed with its `(`, which was taken before.

* `ParseError.PointsAt`: the errors that can be made of some tokens.
* `Cursor.rules_locate`: every rule makes such errors only.
* `parseTokens_pointsAt`: and so does parsing as a whole.
-/

namespace Calculator

/-- `PointsAt tokens stop error`: the error points at one of the tokens, or at the end of the input
at the offset `stop`, and at the end just if that came too early. -/
inductive ParseError.PointsAt (tokens : List Token) (stop : Nat) : ParseError → Prop where
  | atEnd : PointsAt tokens stop ⟨.unexpectedEnd, ⟨stop, 0⟩⟩
  | atToken {fault : ParseFault} {token : Token} (inside : fault ≠ .unexpectedEnd)
      (member : token ∈ tokens) : PointsAt tokens stop ⟨fault, token.span⟩

/-- An error that points at one of some tokens points at one of more tokens. -/
theorem ParseError.PointsAt.mono {tokens more : List Token} {stop : Nat} {error : ParseError}
    (sub : tokens ⊆ more) (h : error.PointsAt tokens stop) : error.PointsAt more stop := by
  cases h with
  | atEnd => exact .atEnd
  | atToken inside member => exact .atToken inside (sub member)

namespace Cursor

variable {α β γ : Type} {c d : Cursor}

/-- An outcome at `c` that leaves a part of the tokens, does not move the end and, if it is an
error, points into the tokens. -/
structure Locates (c : Cursor) (outcome : Except ParseError α × Cursor) : Prop where
  rest : outcome.2.rest ⊆ c.rest
  stop : outcome.2.stop = c.stop
  error : ∀ e, outcome.1 = .error e → e.PointsAt c.rest c.stop

theorem locates_ok (a : α) (sub : d.rest ⊆ c.rest) (stop : d.stop = c.stop) :
    c.Locates (.ok a, d) :=
  ⟨sub, stop, fun _ h => by cases h⟩

theorem locates_error {e : ParseError} (sub : d.rest ⊆ c.rest) (stop : d.stop = c.stop)
    (points : e.PointsAt c.rest c.stop) :
    c.Locates ((.error e, d) : Except ParseError α × Cursor) :=
  ⟨sub, stop, fun _ h => by cases h; exact points⟩

/-- An outcome behind `d` is one behind an earlier cursor. -/
theorem Locates.behind {outcome : Except ParseError α × Cursor} (h : d.Locates outcome)
    (sub : d.rest ⊆ c.rest) (stop : d.stop = c.stop) : c.Locates outcome :=
  ⟨fun _ member => sub (h.rest member), h.stop.trans stop,
    fun e failed => stop ▸ (h.error e failed).mono sub⟩

theorem Locates.map {outcome : Except ParseError α × Cursor} (h : c.Locates outcome) (f : α → β) :
    c.Locates (outcome.1.map f, outcome.2) := by
  rcases outcome with ⟨_ | a, d⟩
  · exact ⟨h.rest, h.stop, fun e failed => by cases failed; exact h.error _ rfl⟩
  · exact locates_ok _ h.rest h.stop

/-- An error is passed on by a rule of any kind. -/
theorem Locates.failed {e : ParseError}
    (h : c.Locates ((.error e, d) : Except ParseError α × Cursor)) :
    c.Locates ((.error e, d) : Except ParseError β × Cursor) :=
  locates_error h.rest h.stop (h.error e rfl)

/-- A rule goes on with a tail where its first part stops. -/
theorem Locates.tail {a : α} {outcome : Except ParseError β × Cursor} (h : c.Locates (.ok a, d))
    (next : d.Locates outcome) (f : β → γ) : c.Locates (outcome.1.map f, outcome.2) :=
  (next.map f).behind h.rest h.stop

/-- **Every rule that fails points at a token before it or at the end.** -/
theorem rules_locate : ∀ c : Cursor,
    c.Locates c.expression ∧ c.Locates c.term ∧ c.Locates c.sumTail ∧ c.Locates c.productTail ∧
      c.Locates c.factor := by
  refine rules_induction ?expression ?term ?sumTail ?productTail ?factor
  case expression =>
    intro c ihTerm ihTail
    rw [expression_eq]
    rcases hTerm : c.term with ⟨e | term, c₁⟩ <;> rw [hTerm] at ihTerm ihTail
    · exact ihTerm.failed
    · exact ihTerm.tail ihTail _
  case term =>
    intro c ihFactor ihTail
    rw [term_eq]
    rcases hFactor : c.factor with ⟨e | factor, c₁⟩ <;> rw [hFactor] at ihFactor ihTail
    · exact ihFactor.failed
    · exact ihFactor.tail ihTail _
  case sumTail =>
    intro c ih
    rw [sumTail_eq]
    split
    · exact locates_ok _ (List.Subset.refl _) rfl
    split
    · exact locates_ok _ (List.Subset.refl _) rfl
    · next token rest next =>
      obtain ⟨ihTerm, ihTail⟩ := ih token rest next
      have sub : rest ⊆ c.rest := next ▸ List.subset_cons_self token rest
      split
      · exact locates_ok _ (List.Subset.refl _) rfl
      · rcases hTerm : ({ c with rest } : Cursor).term with ⟨e | term, c₁⟩ <;>
          rw [hTerm] at ihTerm ihTail
        · exact ihTerm.failed.behind sub rfl
        · exact (ihTerm.tail ihTail _).behind sub rfl
  case productTail =>
    intro c ih
    rw [productTail_eq]
    split
    · exact locates_ok _ (List.Subset.refl _) rfl
    split
    · exact locates_ok _ (List.Subset.refl _) rfl
    · next token rest next =>
      obtain ⟨ihFactor, ihTail⟩ := ih token rest next
      have sub : rest ⊆ c.rest := next ▸ List.subset_cons_self token rest
      have member : token ∈ c.rest := next ▸ List.mem_cons_self
      split
      · rcases hFactor : ({ c with rest } : Cursor).factor with ⟨e | factor, c₁⟩ <;>
          rw [hFactor] at ihFactor ihTail
        · exact ihFactor.failed.behind sub rfl
        · exact (ihFactor.tail ihTail _).behind sub rfl
      · split
        · exact locates_ok _ (List.Subset.refl _) rfl
        · split
          · exact locates_error (List.Subset.refl _) rfl (.atToken (by simp) member)
          · exact locates_ok _ sub rfl
  case factor =>
    intro c ih
    rw [factor_eq]
    split
    · exact locates_error (List.Subset.refl _) rfl .atEnd
    · next token rest next =>
      obtain ⟨ihInner, ihOperand⟩ := ih token rest next
      have sub : rest ⊆ c.rest := next ▸ List.subset_cons_self token rest
      have member : token ∈ c.rest := next ▸ List.mem_cons_self
      split
      · -- The `(` is among the tokens of this rule, though not of the expression inside.
        have located := ihInner.behind sub rfl
        rcases hInner : ({ c with rest, openGroups := c.openGroups + 1 } : Cursor).expression with
          ⟨e | inner, c₁⟩ <;> rw [hInner] at located
        · exact located.failed
        · dsimp only
          split
          · exact locates_ok _ located.rest located.stop
          · exact locates_error located.rest located.stop (.atToken (by simp) member)
      · exact (ihOperand.map Factor.negation).behind sub rfl
      · exact locates_ok _ sub rfl
      · exact locates_error sub rfl (.atToken (by simp) member)

end Cursor

/-- **An error of parsing points at a token of the list, or behind the last one.** -/
theorem parseTokens_pointsAt {tokens : List Token} {error : ParseError}
    (h : parseTokens tokens = .error error) :
    error.PointsAt tokens (Cursor.ofTokens tokens).stop := by
  have located := (Cursor.rules_locate (Cursor.ofTokens tokens)).1
  rw [parseTokens] at h
  split at h
  · next e c₁ failed =>
    cases h
    exact located.error error (by rw [failed])
  · next e c₁ went =>
    rw [went] at located
    split at h
    · next token next =>
      cases h
      exact .atToken (by simp) (located.rest (List.mem_of_mem_head? next))
    · cases h

end Calculator
