import Calculator.Batch
import Calculator.CommandLine

/-!
A session: one run of the calculator from its command line to its exit code.

The command line is read first, then the configuration, and only then does the command run, so an
error in one of them keeps all that comes later from having any effect. The exit code is 0 on
success, 1 on a failure, 2 for a command line that cannot be used and 101 for a run that is aborted.
-/

namespace Calculator

/-- Runs a command with a configuration. -/
def Command.execute (files : Files) (config : Config) : Command → Report
  | .eval expression => .ofLine (evaluateLine config.output expression)
  | .run file => runBatch files config.output file
  | .display expression stage => .ofLine (showLine stage expression)

/-- Runs an invocation; the search for a configuration file starts at `start`. -/
def Invocation.execute (files : Files) (start : String) (invocation : Invocation) : Report :=
  match Config.load files invocation.config start with
  | .ok config => invocation.command.execute files config
  | .error fault => ⟨[], .failed (.ofConfigFault fault)⟩

/-- The paths that an invocation may ask a file system about. -/
def Invocation.paths (start : String) (invocation : Invocation) : List String :=
  let operand :=
    match invocation.command with
    | .run file => [file]
    | _ => []
  start :: (Config.searchPaths start ++ invocation.config.toList ++ operand)

/-- It asks about no others. -/
theorem Invocation.execute_congr {files files' : Files} {start : String} {invocation : Invocation}
    (h : ∀ path ∈ invocation.paths start, files.AgreeAt files' path) :
    invocation.execute files start = invocation.execute files' start := by
  obtain ⟨config, command⟩ := invocation
  simp only [paths, List.forall_mem_cons, List.forall_mem_append] at h
  obtain ⟨hstart, ⟨hsearch, hconfig⟩, hoperand⟩ := h
  have hload : Config.load files config start = Config.load files' config start := by
    unfold Config.load
    cases config with
    | some path => exact Config.read_congr (hconfig path (by simp))
    | none =>
      simp only [Option.orElse_none, ← Config.find?_congr hstart hsearch]
      cases hfound : Config.find? files start with
      | none => rfl
      | some path => exact Config.read_congr (hsearch path (Config.mem_searchPaths_of_find? hfound))
  have hcommand : ∀ c, command.execute files c = command.execute files' c := by
    intro c
    cases command with
    | eval expression => rfl
    | run file => simp only [Command.execute, runBatch, (hoperand file (by simp)).readText_eq]
    | display expression stage => rfl
  simp only [execute, hload, hcommand]

/-- How a session ends: its exit code, what it writes and what it complains about. -/
structure Ending where
  exitCode : UInt32
  output : String
  complaint : Option String
deriving DecidableEq, Repr

/-- The end of a session that asks for help or cannot be understood. -/
def Refusal.ending : Refusal → Ending
  | .help => ⟨0, CommandLine.usage, none⟩
  | .usage error => ⟨2, "", some (error.message ++ "\n" ++ CommandLine.usage)⟩

/-- A failure line by line: what it is, what is behind it and what can be done about it. -/
def Failure.complaint (failure : Failure) : String :=
  let lines := failure.message :: failure.causes.map ("  " ++ ·) ++ failure.help?.toList
  String.join (lines.map (· ++ "\n"))

/-- The complaint about a text that cannot be written. -/
def Ending.outOfRange : String := "Formatting argument out of range\n"

/-- The end of a session with its report. -/
def Report.ending (report : Report) : Ending :=
  match report.conclusion with
  | .complete => ⟨0, report.text, none⟩
  | .failed failure => ⟨1, report.text, some failure.complaint⟩
  | .aborted => ⟨101, report.text, some Ending.outOfRange⟩

/-- A whole session. -/
def session (files : Files) (start : String) (words : List String) : Ending :=
  match CommandLine.read words with
  | .ok invocation => (invocation.execute files start).ending
  | .error refusal => refusal.ending

end Calculator
