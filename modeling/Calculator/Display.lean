import Calculator.Grammar.Parsing
import Calculator.Postfix
import Calculator.Text.Blank

/-!
The stages of an evaluation, shown instead of the value: the tokens of an expression, the outline of
its tree or its postfix sequence. The last line of a display is not ended. Every stage can be shown
but a tree that has no outline.
-/

namespace Calculator

/-- The stage to show. -/
inductive Stage where
  | tokens
  | tree
  | linear
deriving DecidableEq, Repr

/-- The stage of that name. -/
def Stage.ofName? : String → Option Stage
  | "tokens" => some .tokens
  | "tree" => some .tree
  | "linear" => some .linear
  | _ => none

/-- A token's line: the kind in eight columns, the text quoted, the offset behind an `@`. -/
def Token.listing (t : Token) : String :=
  let kind := t.kind.name
  kind ++ String.ofList (List.replicate (8 - kind.length) ' ') ++ " " ++ Text.quote t.text
    ++ " @" ++ toString t.span.offset

/-- The text of a stage, if it can be written. A list of tokens asks only that the expression can be
lexed. -/
def Stage.render (stage : Stage) (expression : String) : Except SyntaxError (Option String) := do
  let tokens ← (lex expression).mapError .lexical
  match stage with
  | .tokens => pure (some ("\n".intercalate (tokens.map Token.listing)))
  | .tree =>
    let parsed ← (parseTokens tokens).mapError .grammatical
    pure (parsed.toTree.outline?.map Text.trimBlanks)
  | .linear =>
    let parsed ← (parseTokens tokens).mapError .grammatical
    pure (some parsed.toTree.linearize.text)

end Calculator
