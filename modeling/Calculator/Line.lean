import Calculator.Display
import Calculator.Evaluation
import Calculator.Output

/-!
A line of input: one expression, evaluated and written out, or the reason why it cannot be. That a
value cannot be written is no such reason. It says nothing against the line, and there is no result
either.
-/

namespace Calculator

/-- Why a line has no result. -/
inductive LineFailure where
  /-- The line is no expression; the whole of it is kept beside the error. -/
  | malformed (source : String) (error : SyntaxError)
  /-- What the line says has no value. -/
  | unfoldable (error : FoldError)
deriving DecidableEq, Repr

namespace LineFailure

/-- The failure of the line `source`. -/
def ofEvalError (source : String) : EvalError → LineFailure
  | .malformed error => .malformed source error
  | .unfoldable error => .unfoldable error

/-- What is wrong with a malformed line, without its place. -/
def note : SyntaxError → String
  | .lexical _ => "no token matches here"
  | .grammatical error => error.fault.reason

/-- The failure in one line. -/
def message : LineFailure → String
  | .malformed _ error => "Syntax error: " ++ note error
  | .unfoldable _ => "Evaluation failed"

/-- What is behind the failure, nearest first. -/
def causes : LineFailure → List String
  | .malformed _ error => [error.message]
  | .unfoldable error => error.message :: error.causes

end LineFailure

/-- The text of an expression's result, if it can be written. -/
def evaluateLine (settings : OutputSettings) (expression : String) :
    Except LineFailure (Option String) :=
  match evaluate expression with
  | .ok value => .ok (settings.formatResult? expression value)
  | .error error => .error (.ofEvalError expression error)

/-- The text of a stage of an expression, if it can be written. -/
def showLine (stage : Stage) (expression : String) : Except LineFailure (Option String) :=
  (stage.render expression).mapError (.malformed expression)

end Calculator
