import Calculator.Display

/-!
The command line.

A command line is a command with its operands, and flags that may stand before or after the command
and among its operands. Words are taken up one at a time:

* `--` ends the flags; all words behind it are operands.
* A word with two hyphens is a flag by its name, a word with one hyphen a cluster of flags by their
  letters. `config` takes a value: what is attached to it or else the next word.
* An expression may begin with hyphens. Where one is expected, a word that is no flag by name, or
  that has a letter of no flag, is no flag but the expression.
* What comes before the command and what comes after it are two levels. On each level `config` may
  be given once, and `verbose` and `quiet` not both; the value of the second level prevails.
* `verbose` and `quiet` may be repeated. They do not change what a command writes.
-/

namespace Calculator

/-- What to do. -/
inductive Command where
  | eval (expression : String)
  | run (file : String)
  | display (expression : String) (stage : Stage)
deriving DecidableEq, Repr

/-- A command, and the configuration file that is named for it. -/
structure Invocation where
  config : Option String
  command : Command
deriving DecidableEq, Repr

/-- What is wrong with a command line. -/
inductive UsageError where
  | missingCommand
  | unknownCommand (word : String)
  | unknownFlag (word : String)
  | missingValue
  | repeatedConfig
  | conflictingFlags
  | missingOperand
  | surplusOperand (word : String)
  | invalidOperand (word : String)
deriving DecidableEq, Repr

/-- The error in one line. -/
def UsageError.message : UsageError → String
  | .missingCommand => "a command is missing"
  | .unknownCommand word => "unknown command " ++ Text.quote word
  | .unknownFlag word => "unknown flag " ++ Text.quote word
  | .missingValue => "the name of a configuration file is missing"
  | .repeatedConfig => "more than one configuration file is named"
  | .conflictingFlags => "verbose and quiet exclude each other"
  | .missingOperand => "an operand is missing"
  | .surplusOperand word => "surplus operand " ++ Text.quote word
  | .invalidOperand word => "invalid operand " ++ Text.quote word

/-- Why a command line gives no command to run. -/
inductive Refusal where
  /-- It asks for help. -/
  | help
  | usage (error : UsageError)
deriving DecidableEq, Repr

namespace CommandLine

/-- How the calculator is called. -/
def usage : String :=
  "usage: calculator [-c FILE] [-v | -q] eval EXPR\n" ++
  "       calculator [-c FILE] [-v | -q] run FILE\n" ++
  "       calculator [-c FILE] [-v | -q] show EXPR [tokens | tree | linear]\n"

/-- A flag on the command line. -/
inductive Flag where
  | verbose
  | quiet
  | help
  /-- The flag `config` with its value. -/
  | config (path : String)
  /-- The flag `config` without a value, which has to follow. -/
  | configNext
deriving DecidableEq, Repr

/-- Whether a letter is that of a flag. -/
def isFlagLetter (c : Char) : Bool := c == 'v' || c == 'q' || c == 'h' || c == 'c'

/-- The flags of a cluster. What follows the letter of `config` is its value, with or without an
equals sign between. -/
def cluster? : List Char → Option (List Flag)
  | [] => some []
  | 'v' :: cs => (cluster? cs).map (.verbose :: ·)
  | 'q' :: cs => (cluster? cs).map (.quiet :: ·)
  | 'h' :: _ => some [.help]
  | ['c'] => some [.configNext]
  | 'c' :: '=' :: cs => some [.config (String.ofList cs)]
  | 'c' :: cs => some [.config (String.ofList cs)]
  | _ => none

/-- What a word is by itself. -/
inductive Word where
  /-- The end of the flags. -/
  | separator
  | flags (flags : List Flag)
  /-- It looks like a flag and is none. -/
  | unknown
  /-- An operand or the value of a flag. -/
  | plain
deriving DecidableEq, Repr

/-- A word with two hyphens: its name, and the value attached with an equals sign. -/
def longWord (hyphens : Bool) (name : List Char) (value : Option (List Char)) : Word :=
  match String.ofList name, value with
  | "config", some value => .flags [.config (String.ofList value)]
  | "config", none => .flags [.configNext]
  | "verbose", none => .flags [.verbose]
  | "quiet", none => .flags [.quiet]
  | "help", none => .flags [.help]
  | "verbose", some _ => .unknown
  | "quiet", some _ => .unknown
  | "help", some _ => .unknown
  | _, _ => if hyphens then .plain else .unknown

/-- What a word is; `hyphens` says whether a word may begin with hyphens and be plain all the
same. -/
def classify (hyphens : Bool) (word : String) : Word :=
  match word.toList with
  | ['-', '-'] => .separator
  | '-' :: '-' :: cs =>
    let name := cs.takeWhile (· != '=')
    match cs.dropWhile (· != '=') with
    | [] => longWord hyphens name none
    | _ :: value => longWord hyphens name (some value)
  | '-' :: c :: cs =>
    if hyphens && !(c :: cs).all isFlagLetter then .plain
    else
      match cluster? (c :: cs) with
      | some flags => .flags flags
      | none => .unknown
  | _ => .plain

/-- The flags of one level so far. -/
structure FlagSet where
  config : Option String := none
  /-- Whether the value of `config` is still to come. -/
  awaiting : Bool := false
  verbose : Bool := false
  quiet : Bool := false
deriving DecidableEq, Repr

namespace FlagSet

/-- Takes up the value of `config`. -/
def give (set : FlagSet) (path : String) : Except Refusal FlagSet :=
  if path.isEmpty then .error (.usage .missingValue)
  else if set.config.isSome then .error (.usage .repeatedConfig)
  else .ok { set with config := some path, awaiting := false }

/-- Takes up a flag. -/
def add (set : FlagSet) (flag : Flag) : Except Refusal FlagSet :=
  if set.awaiting then .error (.usage .missingValue)
  else
    match flag with
    | .verbose => .ok { set with verbose := true }
    | .quiet => .ok { set with quiet := true }
    | .help => .error .help
    | .config path => set.give path
    | .configNext => .ok { set with awaiting := true }

/-- The flags at the end of their level. -/
def finish (set : FlagSet) : Except Refusal FlagSet :=
  if set.awaiting then .error (.usage .missingValue)
  else if set.verbose && set.quiet then .error (.usage .conflictingFlags)
  else .ok set

end FlagSet

/-- Reads a level up to the first operand, and gives that and the words behind it. -/
def readFront (set : FlagSet) : List String → Except Refusal (FlagSet × String × List String)
  | [] => do
    discard set.finish
    .error (.usage .missingCommand)
  | word :: words =>
    match classify false word with
    | .separator => .error (.usage .missingCommand)
    | .unknown => .error (.usage (.unknownFlag word))
    | .flags flags => do readFront (← flags.foldlM FlagSet.add set) words
    | .plain =>
      if set.awaiting then do readFront (← set.give word) words
      else do pure (← set.finish, word, words)

/-- Reads a level to its end, and gives its operands. Each of the places left for operands says
whether the operand may begin with hyphens; behind the end of the flags every operand may. -/
def readOperands (places : List Bool) (set : FlagSet) (literal : Bool) :
    List String → Except Refusal (FlagSet × List String)
  | [] => do pure (← set.finish, [])
  | word :: words =>
    let operand : Except Refusal (FlagSet × List String) :=
      match places with
      | [] => .error (.usage (.surplusOperand word))
      | _ :: places => do
        let (set, operands) ← readOperands places set literal words
        pure (set, word :: operands)
    if literal then operand
    else
      match classify (places.head?.getD false) word with
      | .separator =>
        if set.awaiting then .error (.usage .missingValue)
        else readOperands places set true words
      | .unknown => .error (.usage (.unknownFlag word))
      | .flags flags => do readOperands places (← flags.foldlM FlagSet.add set) false words
      | .plain =>
        if set.awaiting then do readOperands places (← set.give word) false words
        else operand

/-- The places for operands of a command. -/
def places? : String → Option (List Bool)
  | "eval" => some [true]
  | "run" => some [false]
  | "show" => some [true, false]
  | _ => none

/-- The command of that name on its operands. -/
def command (name : String) (operands : List String) : Except UsageError Command :=
  match name, operands with
  | "eval", [expression] => .ok (.eval expression)
  | "run", [file] => if file.isEmpty then .error (.invalidOperand file) else .ok (.run file)
  | "show", [expression] => .ok (.display expression .tree)
  | "show", [expression, stage] =>
    match Stage.ofName? stage with
    | some stage => .ok (.display expression stage)
    | none => .error (.invalidOperand stage)
  | _, _ => .error .missingOperand

/-- What a command line asks for. -/
def read (words : List String) : Except Refusal Invocation := do
  let (front, name, words) ← readFront {} words
  match places? name with
  | none => .error (if name = "help" then .help else .usage (.unknownCommand name))
  | some places =>
    let (back, operands) ← readOperands places {} false words
    let command ← (command name operands).mapError .usage
    pure { config := back.config.or front.config, command }

end CommandLine

end Calculator
