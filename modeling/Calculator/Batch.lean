import Calculator.Config
import Calculator.Line

/-!
Batches: files with one expression a line.

The lines are evaluated one after the other until one fails. Carriage returns at the end of a line
do not count, and neither do lines without anything else; they are still lines when it comes to the
number of the one that failed. A result that cannot be written aborts the run on the spot, which is
no failure; what was written before stays.
-/

namespace Calculator

/-- Why a run of the calculator fails. -/
inductive Failure where
  | line (failure : LineFailure)
  | unreadable (path : String) (fault : ReadFault)
  | misconfigured (path : String)
  /-- The line of that number in the file of a batch. -/
  | batch (path : String) (number : Nat) (failure : LineFailure)
deriving DecidableEq, Repr

namespace Failure

/-- The failure to get at a configuration. -/
def ofConfigFault : ConfigFault → Failure
  | .unreadable path fault => .unreadable path fault
  | .invalid path => .misconfigured path

/-- The failure in one line. -/
def message : Failure → String
  | .line failure => failure.message
  | .unreadable path _ => "Failed to read " ++ path
  | .misconfigured path => "Invalid configuration in " ++ path
  | .batch path number _ => "Line " ++ toString number ++ " of " ++ path ++ " failed"

/-- What is behind the failure, nearest first. -/
def causes : Failure → List String
  | .line failure => failure.causes
  | .batch _ _ failure => failure.message :: failure.causes
  | .unreadable _ _ => []
  | .misconfigured _ => []

/-- What can be done about the failure. -/
def help? : Failure → Option String
  | .misconfigured _ => some "recognised keys are `precision` and `echo` under `[output]`"
  | _ => none

end Failure

/-- How a run ends. -/
inductive Conclusion where
  /-- Nothing is left to do. -/
  | complete
  | failed (failure : Failure)
  /-- A text could not be written. -/
  | aborted
deriving DecidableEq, Repr

/-- What a run writes, line by line, and how it ends. -/
structure Report where
  lines : List String
  conclusion : Conclusion
deriving DecidableEq, Repr

namespace Report

/-- The text that a run writes; every line is ended. -/
def text (report : Report) : String := String.join (report.lines.map (· ++ "\n"))

/-- Puts a line in front. -/
def after (line : String) (report : Report) : Report :=
  { report with lines := line :: report.lines }

/-- The report on a single line. -/
def ofLine : Except LineFailure (Option String) → Report
  | .ok (some line) => ⟨[line], .complete⟩
  | .ok none => ⟨[], .aborted⟩
  | .error failure => ⟨[], .failed (.line failure)⟩

end Report

/-- The expressions of a batch, line by line, without the carriage returns at their ends. -/
def expressions (text : String) : List String :=
  let pieces := Text.splitAt '\n' text.toList
  let lines := if pieces.getLast? = some [] then pieces.dropLast else pieces
  lines.map fun line => String.ofList (Text.trimEnd (· == '\r') line)

/-- Evaluates lines in turn, of which the first has the given number. -/
def runLines (settings : OutputSettings) (path : String) (number : Nat) : List String → Report
  | [] => ⟨[], .complete⟩
  | line :: lines =>
    if line.isEmpty then runLines settings path (number + 1) lines
    else
      match evaluateLine settings line with
      | .ok (some text) => (runLines settings path (number + 1) lines).after text
      | .ok none => ⟨[], .aborted⟩
      | .error failure => ⟨[], .failed (.batch path number failure)⟩

/-- Evaluates the lines of a file. -/
def runBatch (files : Files) (settings : OutputSettings) (path : String) : Report :=
  match files.readText path with
  | .ok text => runLines settings path 1 (expressions text)
  | .error fault => ⟨[], .failed (.unreadable path fault)⟩

end Calculator
