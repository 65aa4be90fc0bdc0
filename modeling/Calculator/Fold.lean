import Calculator.Log
import Calculator.Number.Reading

/-!
Folding a postfix sequence to its value.

The sequence is worked off from the front over a stack of operands. A number is read and goes on
top; an operator takes its right operand from the top and the left one below it, and puts its value
back; a negation does so with one operand. What has to be left in the end is one operand. Numbers
are doubles throughout, so a division by zero is infinite or NaN and no error.
-/

namespace Calculator

/-- Why a postfix sequence has no value. -/
inductive FoldError where
  /-- The symbol at this position finds fewer operands than it takes. -/
  | missingOperand (symbol : Symbol) (position : Nat)
  /-- There is nothing to fold. -/
  | nothing
  /-- More than one operand is left. -/
  | leftover (count : Nat)
  /-- A number cannot be read. -/
  | invalidNumber (text : String)
deriving DecidableEq, Repr

namespace FoldError

/-- The error in one line. -/
def message : FoldError → String
  | .missingOperand symbol position =>
    "Operator `" ++ symbol.text ++ "` at position " ++ toString position ++ " is missing an operand"
  | .nothing => "Nothing to evaluate"
  | .leftover count => toString count ++ " operands left after folding"
  | .invalidNumber text => "Invalid number literal " ++ Text.quote text

/-- What is behind the error, nearest first. -/
def causes : FoldError → List String
  | .invalidNumber text =>
    [if text.isEmpty then "cannot parse float from empty string" else "invalid float literal"]
  | _ => []

end FoldError

/-- The value of an operator on two operands. -/
def Operator.apply (op : Operator) (left right : Float) : Float :=
  match op with
  | .add => left + right
  | .sub => left - right
  | .mul => left * right
  | .div => left / right

namespace Postfix

/-- Applies one symbol, which stands at `position`, to the operands, top first. -/
def step (position : Nat) (symbol : Symbol) (operands : List Float) :
    Logged FoldError (List Float) :=
  match symbol, operands with
  | .number text, operands =>
    match Number.ofText? text with
    | some value => pure (value :: operands)
    | none => .fail (.invalidNumber text)
  | .operator op, right :: left :: operands => do
    let value := op.apply left right
    .leave (.combined op left right value)
    pure (value :: operands)
  | .negate, operand :: operands => do
    .leave (.negated operand (-operand))
    pure (-operand :: operands)
  | symbol, _ => .fail (.missingOperand symbol position)

/-- Applies the symbols in turn, the first of which stands at `position`. -/
def run (position : Nat) : Postfix → List Float → Logged FoldError (List Float)
  | [], operands => pure operands
  | symbol :: symbols, operands => do
    run (position + 1) symbols (← step position symbol operands)

theorem run_append (p q : Postfix) (position : Nat) (operands : List Float) :
    run position (p ++ q) operands = run position p operands >>= run (position + p.length) q := by
  induction p generalizing position operands with
  | nil => simp [run]
  | cons symbol p ih =>
    simp only [List.cons_append, run, ih, bind_assoc, List.length_cons, Nat.add_assoc,
      Nat.add_comm 1]

/-- The value of a sequence. -/
def fold (p : Postfix) : Logged FoldError Float := do
  match ← p.run 0 [] with
  | [] => .fail .nothing
  | [value] => do
    .leave (.folded p.length value)
    pure value
  | operands => .fail (.leftover operands.length)

end Postfix

end Calculator
