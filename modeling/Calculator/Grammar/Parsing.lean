import Calculator.Grammar.Cursor
import Calculator.Token.Lexing

/-!
Parsing by recursive descent: from tokens to an expression.

Each rule of the grammar is a function on cursors that gives its result together with the cursor
behind it, also when it fails, so that one cursor can serve several calls.

Groups close late. The `)` of a group is taken by the first tail of a product that meets it, however
deep it stands inside the group; from there on every tail is empty until the factor that opened the
group is reached, which puts the matter right. A group whose expression ends without having met its
`)` is unclosed.

* `Cursor.expression`, `Cursor.term`, `Cursor.sumTail`, `Cursor.productTail`, `Cursor.factor`: the
  rules of the grammar. `Cursor.expression_eq` and its like give each rule by the others.
* `parseTokens`: all tokens have to belong to one expression.
* `parse`: the same from a text.
-/

namespace Calculator

namespace Cursor

mutual

/-- The rule `Expression ::= Term A`. -/
def expressionStep (c : Cursor) : Step Expression c :=
  (termStep c).bind fun term c₁ _ => (sumTailStep c₁).map (.mk term)
termination_by (c.rest.length, 3)
decreasing_by all_goals simp only [Prod.lex_def]; grind

/-- The rule `Term ::= Factor B`. -/
def termStep (c : Cursor) : Step Term c :=
  (factorStep c).bind fun factor c₁ _ => (productTailStep c₁).map (.mk factor)
termination_by (c.rest.length, 2)
decreasing_by all_goals simp only [Prod.lex_def]; grind

/-- The rule `A ::= ("+" | "-") Term A | nothing`. Behind a closed group the tail is empty. -/
def sumTailStep (c : Cursor) : Step SumTail c :=
  if c.groupClosed then .done c .empty
  else
    match h : c.rest with
    | [] => .done c .empty
    | token :: rest =>
      match additive? token.kind with
      | none => .done c .empty
      | some op =>
        ((termStep { c with rest }).bind fun term c₁ _ =>
          (sumTailStep c₁).map (.next op term)).behind (by simp [h])
termination_by (c.rest.length, 1)
decreasing_by all_goals simp only [Prod.lex_def]; grind

/-- The rule `B ::= ("*" | "/") Factor B | nothing`. A tail that meets a `)` is empty and takes it
for the innermost open group; behind a closed group the tail is empty. -/
def productTailStep (c : Cursor) : Step ProductTail c :=
  if c.groupClosed then .done c .empty
  else
    match h : c.rest with
    | [] => .done c .empty
    | token :: rest =>
      match multiplicative? token.kind with
      | some op =>
        ((factorStep { c with rest }).bind fun factor c₁ _ =>
          (productTailStep c₁).map (.next op factor)).behind (by simp [h])
      | none =>
        if token.kind ≠ .closeParen then .done c .empty
        else
          match c.openGroups with
          | 0 => .fail c ⟨.unmatchedParen, token.span⟩
          | n + 1 =>
            (Step.done { c with rest, openGroups := n, groupClosed := true } .empty).behind
              (by simp [h])
termination_by (c.rest.length, 1)
decreasing_by all_goals simp only [Prod.lex_def]; grind

/-- The rule `Factor ::= "(" Expression ")" | "-" Factor | number`. A token that begins no operand
is taken all the same. -/
def factorStep (c : Cursor) : Step Factor c :=
  match h : c.rest with
  | [] => .fail c c.endError
  | token :: rest =>
    Step.behind (d := { c with rest }) (by simp [h]) <|
      match token.kind with
      | .openParen =>
        Step.behind (d := { c with rest, openGroups := c.openGroups + 1 }) (Nat.le_refl _) <|
          (expressionStep { c with rest, openGroups := c.openGroups + 1 }).bind fun inner c₁ _ =>
            if c₁.groupClosed then
              Step.behind (d := { c₁ with groupClosed := false }) (Nat.le_refl _)
                (Step.done _ (Factor.group inner))
            else .fail c₁ ⟨.unclosedParen, token.span⟩
      | .minus => (factorStep { c with rest }).map .negation
      | .number => .done { c with rest } (.number token.text)
      | found => .fail { c with rest } ⟨.operandExpected found, token.span⟩
termination_by (c.rest.length, 0)
decreasing_by all_goals simp only [Prod.lex_def]; grind

end

/-- Parses an expression. -/
def expression (c : Cursor) : Except ParseError Expression × Cursor := (expressionStep c).outcome

/-- Parses a term. -/
def term (c : Cursor) : Except ParseError Term × Cursor := (termStep c).outcome

/-- Parses the tail of a sum. -/
def sumTail (c : Cursor) : Except ParseError SumTail × Cursor := (sumTailStep c).outcome

/-- Parses the tail of a product. -/
def productTail (c : Cursor) : Except ParseError ProductTail × Cursor := (productTailStep c).outcome

/-- Parses a factor. -/
def factor (c : Cursor) : Except ParseError Factor × Cursor := (factorStep c).outcome

theorem expression_rest_le (c : Cursor) : c.expression.2.rest.length ≤ c.rest.length :=
  (expressionStep c).le

theorem term_rest_le (c : Cursor) : c.term.2.rest.length ≤ c.rest.length := (termStep c).le

theorem sumTail_rest_le (c : Cursor) : c.sumTail.2.rest.length ≤ c.rest.length := (sumTailStep c).le

theorem productTail_rest_le (c : Cursor) : c.productTail.2.rest.length ≤ c.rest.length :=
  (productTailStep c).le

theorem factor_rest_le (c : Cursor) : c.factor.2.rest.length ≤ c.rest.length := (factorStep c).le

theorem expression_eq (c : Cursor) :
    c.expression =
      match c.term with
      | (.error e, c₁) => (.error e, c₁)
      | (.ok term, c₁) => (c₁.sumTail.1.map (.mk term), c₁.sumTail.2) := by
  simp only [expression, term, sumTail]
  rw [expressionStep, Step.outcome_bind]
  rcases termStep c with ⟨_ | _, c₁, h₁⟩ <;> rfl

theorem term_eq (c : Cursor) :
    c.term =
      match c.factor with
      | (.error e, c₁) => (.error e, c₁)
      | (.ok factor, c₁) => (c₁.productTail.1.map (.mk factor), c₁.productTail.2) := by
  simp only [term, factor, productTail]
  rw [termStep, Step.outcome_bind]
  rcases factorStep c with ⟨_ | _, c₁, h₁⟩ <;> rfl

theorem sumTail_eq (c : Cursor) :
    c.sumTail =
      if c.groupClosed then (.ok .empty, c)
      else
        match c.rest with
        | [] => (.ok .empty, c)
        | token :: rest =>
          match additive? token.kind with
          | none => (.ok .empty, c)
          | some op =>
            match ({ c with rest } : Cursor).term with
            | (.error e, c₁) => (.error e, c₁)
            | (.ok term, c₁) => (c₁.sumTail.1.map (.next op term), c₁.sumTail.2) := by
  rw [sumTail, sumTailStep]
  split
  · rfl
  split
  · next h => simp only [h]; rfl
  · next token rest h =>
    simp only [h]
    cases additive? token.kind with
    | none => rfl
    | some op =>
      simp only [Step.outcome_behind, Step.outcome_bind, term]
      rcases termStep _ with ⟨_ | _, c₁, h₁⟩ <;> rfl

theorem productTail_eq (c : Cursor) :
    c.productTail =
      if c.groupClosed then (.ok .empty, c)
      else
        match c.rest with
        | [] => (.ok .empty, c)
        | token :: rest =>
          match multiplicative? token.kind with
          | some op =>
            match ({ c with rest } : Cursor).factor with
            | (.error e, c₁) => (.error e, c₁)
            | (.ok factor, c₁) =>
              (c₁.productTail.1.map (.next op factor), c₁.productTail.2)
          | none =>
            if token.kind ≠ .closeParen then (.ok .empty, c)
            else
              match c.openGroups with
              | 0 => (.error ⟨.unmatchedParen, token.span⟩, c)
              | n + 1 => (.ok .empty, { c with rest, openGroups := n, groupClosed := true }) := by
  rw [productTail, productTailStep]
  split
  · rfl
  split
  · next h => simp only [h]; rfl
  · next token rest h =>
    simp only [h]
    cases multiplicative? token.kind with
    | none =>
      dsimp only
      split
      · rfl
      · cases c.openGroups <;> rfl
    | some op =>
      simp only [Step.outcome_behind, Step.outcome_bind, factor]
      rcases factorStep _ with ⟨_ | _, c₁, h₁⟩ <;> rfl

theorem factor_eq (c : Cursor) :
    c.factor =
      match c.rest with
      | [] => (.error c.endError, c)
      | token :: rest =>
        match token.kind with
        | .openParen =>
          match ({ c with rest, openGroups := c.openGroups + 1 } : Cursor).expression with
          | (.error e, c₁) => (.error e, c₁)
          | (.ok inner, c₁) =>
            if c₁.groupClosed then (.ok (.group inner), { c₁ with groupClosed := false })
            else (.error ⟨.unclosedParen, token.span⟩, c₁)
        | .minus =>
          (({ c with rest } : Cursor).factor.1.map .negation, ({ c with rest } : Cursor).factor.2)
        | .number => (.ok (.number token.text), { c with rest })
        | found => (.error ⟨.operandExpected found, token.span⟩, { c with rest }) := by
  rw [factor, factorStep]
  split
  · next h => simp only [h]; rfl
  · next token rest h =>
    simp only [h]
    cases token.kind <;> try rfl
    simp only [Step.outcome_behind, Step.outcome_bind, expression]
    rcases expressionStep _ with ⟨_ | _, c₁, h₁⟩
    · rfl
    · dsimp only [Step.outcome]
      split <;> rfl

end Cursor

/-- The expression that the tokens make up, all of them. -/
def parseTokens (tokens : List Token) : Except ParseError Expression :=
  match (Cursor.ofTokens tokens).expression with
  | (.error e, _) => .error e
  | (.ok expression, c) =>
    match c.peek? with
    | some token => .error ⟨.trailing token.kind, token.span⟩
    | none => .ok expression

/-- The expression that a text is. -/
def parse (text : String) : Except SyntaxError Expression :=
  match lex text with
  | .error e => .error (.lexical e)
  | .ok tokens => (parseTokens tokens).mapError .grammatical

end Calculator
