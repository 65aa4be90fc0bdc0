import Calculator.Fold
import Calculator.Grammar.Parsing

/-!
Evaluating the text of an expression.

The text is lexed, parsed, flattened to postfix and folded, and each stage that is done leaves a
record. `evaluateLogged` keeps the records, `evaluate` has the result alone.
-/

namespace Calculator

/-- Why a text has no value. -/
inductive EvalError where
  /-- The text is no expression. -/
  | malformed (error : SyntaxError)
  /-- The postfix sequence has no value. -/
  | unfoldable (error : FoldError)
deriving DecidableEq, Repr

/-- The value of an expression, with the log of the evaluation. -/
def evaluateLogged (text : String) : Logged EvalError Float := do
  let tokens ← .ofExcept ((lex text).mapError (.malformed ∘ .lexical))
  .leave (.lexed tokens.length text.utf8ByteSize)
  let expression ← .ofExcept ((parseTokens tokens).mapError (.malformed ∘ .grammatical))
  let tree := expression.toTree
  .leave (.parsed tokens.length tree.nodeCount)
  let symbols := tree.linearize
  .leave (.linearized text symbols)
  symbols.fold.mapError .unfoldable

/-- The value of an expression. -/
def evaluate (text : String) : Except EvalError Float := (evaluateLogged text).result

end Calculator
