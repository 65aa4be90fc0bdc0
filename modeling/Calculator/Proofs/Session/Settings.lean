import Calculator.Proofs.Batch.Run
import Calculator.Session

/-!
What the settings of the output can change.

A run comes to the same values whatever the settings are, and it fails for the same reason: settings
take part only when a result is written. If no value can be written with them, the first one that
should be aborts the run. With the expression before it a result can be taken apart again, since
there is no blank in either of the two. A configuration has no other influence on a session, unless
it cannot be loaded; then the session ends before its command has a say.

* `Outcome`: what a run comes to, before it is written.
* `Outcome.report_of_feasible`: one line for each value, with settings that let values be written.
* `exists_outcome_runBatch`: one outcome for all settings.
* `formatResult?_eq_append_iff`: how a result with its expression is taken apart.
* `settings_only_format`: batches and sessions under different settings.
-/

namespace Calculator

/-! ### Results before they are written -/

/-- What a run comes to: expressions with their values, in order, and why it ended early if it
did. -/
structure Outcome where
  results : List (String × Float)
  failure : Option Failure

namespace Outcome

/-- How the run ends if its results can be written. -/
def conclusion (outcome : Outcome) : Conclusion :=
  match outcome.failure with
  | none => .complete
  | some failure => .failed failure

/-- The report on an outcome, written with some settings up to the first value that cannot be. -/
def report (outcome : Outcome) (settings : OutputSettings) : Report :=
  outcome.results.foldr (fun (expression, value) behind =>
    match settings.formatResult? expression value with
    | some line => behind.after line
    | none => ⟨[], .aborted⟩) ⟨[], outcome.conclusion⟩

theorem report_cons (expression : String) (value : Float) (results : List (String × Float))
    (failure : Option Failure) (settings : OutputSettings) :
    report ⟨(expression, value) :: results, failure⟩ settings =
      match settings.formatResult? expression value with
      | some line => (report ⟨results, failure⟩ settings).after line
      | none => ⟨[], .aborted⟩ := rfl

/-- The lines are those of these values, written with some settings. -/
def Written (settings : OutputSettings) (results : List (String × Float)) (lines : List String) :
    Prop :=
  List.Forall₂ (fun (result : String × Float) (line : String) =>
    settings.formatResult? result.1 result.2 = some line) results lines

/-- **Settings that let values be written** leave a line for each value, and the outcome ends as it
does. -/
theorem report_of_feasible {settings : OutputSettings} (feasible : settings.Feasible)
    (outcome : Outcome) :
    ∃ lines, Written settings outcome.results lines ∧
      outcome.report settings = ⟨lines, outcome.conclusion⟩ := by
  obtain ⟨results, failure⟩ := outcome
  induction results with
  | nil => exact ⟨[], .nil, rfl⟩
  | cons result results ih =>
    obtain ⟨expression, value⟩ := result
    obtain ⟨lines, written, same⟩ := ih
    obtain ⟨line, formatted⟩ := feasible.exists_formatResult? expression value
    refine ⟨line :: lines, .cons formatted written, ?_⟩
    rw [report_cons, formatted]
    dsimp only
    rw [same]
    rfl

end Outcome

/-- Lines come to one outcome with all settings, with values for the first of those that have
something in them. -/
theorem exists_outcome_runLines (path : String) (number : Nat) (lines : List String) :
    ∃ outcome : Outcome,
      (∀ settings, runLines settings path number lines = outcome.report settings) ∧
      outcome.results.map Prod.fst <+: lines.filter (· ≠ "") ∧
      ∀ r ∈ outcome.results, evaluate r.1 = .ok r.2 := by
  induction lines generalizing number with
  | nil => exact ⟨⟨[], none⟩, fun settings => rfl, List.nil_prefix, by simp⟩
  | cons line lines ih =>
    obtain ⟨⟨results, failure⟩, same, begins, evaluated⟩ := ih (number + 1)
    by_cases blank : line = ""
    · subst blank
      exact ⟨⟨results, failure⟩, same, begins, evaluated⟩
    · have kept : (line :: lines).filter (· ≠ "") = line :: lines.filter (· ≠ "") :=
        List.filter_cons_of_pos (by simpa using blank)
      have nonempty : ¬ line.isEmpty := by simpa using blank
      cases evaluatedLine : evaluate line with
      | ok value =>
        refine ⟨⟨(line, value) :: results, failure⟩, fun settings => ?_, ?_, ?_⟩
        · rw [runLines, if_neg nonempty, evaluateLine_of_evaluate evaluatedLine, same,
            Outcome.report_cons]
          cases settings.formatResult? line value <;> rfl
        · rw [kept]
          exact List.cons_prefix_cons.mpr ⟨rfl, begins⟩
        · exact List.forall_mem_cons.mpr ⟨evaluatedLine, evaluated⟩
      | error error =>
        refine ⟨⟨[], some (.batch path number (.ofEvalError line error))⟩, fun settings => ?_,
          List.nil_prefix, by simp⟩
        rw [runLines, if_neg nonempty, evaluateLine, evaluatedLine]
        rfl

/-- **A batch comes to one outcome with all settings.** -/
theorem exists_outcome_runBatch (files : Files) (path : String) :
    ∃ outcome : Outcome, (∀ settings, runBatch files settings path = outcome.report settings) ∧
      (∀ text lines, files.read path = .ok text.toByteArray → IsLines text lines →
        outcome.results.map Prod.fst <+: lines.filter (· ≠ "")) ∧
      ∀ r ∈ outcome.results, evaluate r.1 = .ok r.2 := by
  cases readable : files.readText path with
  | error fault =>
    refine ⟨⟨[], some (.unreadable path fault)⟩, fun settings => ?_, ?_, by simp⟩
    · exact runBatch_of_unreadable readable
    · exact fun _ _ _ _ => List.nil_prefix
  | ok text =>
    obtain ⟨outcome, same, begins, evaluated⟩ := exists_outcome_runLines path 1 (expressions text)
    refine ⟨outcome, fun settings => ?_, ?_, evaluated⟩
    · rw [runBatch, readable, ← same]
    · intro text' lines readable' isLines
      rw [Files.readText_eq_ok.mpr readable'] at readable
      cases readable
      rwa [isLines_iff.mp isLines]

/-! ### Taking a result apart -/

/-- Two texts without blanks are told apart when they are joined with ` = `. -/
theorem append_separator_inj {left right before after : String} (noBlankLeft : ' ' ∉ left.toList)
    (noBlankRight : ' ' ∉ right.toList) (same : left ++ " = " ++ right = before ++ " = " ++ after) :
    left = before ∧ right = after := by
  have characters : left.toList ++ ' ' :: ('=' :: ' ' :: right.toList) =
      before.toList ++ ' ' :: ('=' :: ' ' :: after.toList) := by
    simpa [String.toList_append] using congrArg String.toList same
  -- Both sides have two blanks, those of the separator.
  have noBlankBefore : ' ' ∉ before.toList := by
    have blanks := congrArg (List.count ' ') characters
    simp only [List.count_append, List.count_cons, List.count_eq_zero.mpr noBlankLeft,
      List.count_eq_zero.mpr noBlankRight] at blanks
    rw [← List.count_eq_zero]
    omega
  obtain ⟨sameLeft, -, sameRight⟩ := Text.append_cons_unique (p := (· = ' '))
    (fun c member blank => noBlankLeft (blank ▸ member))
    (fun c member blank => noBlankBefore (blank ▸ member)) rfl rfl characters
  simp only [List.cons.injEq, true_and] at sameRight
  exact ⟨String.toList_inj.mp sameLeft, String.toList_inj.mp sameRight⟩

/-- **A result with its expression is taken apart at ` = `**, which stands in it only once: in front
of it is the expression, and behind it the result without the expression. -/
theorem formatResult?_eq_append_iff {expression before after : String} {value : Float}
    (evaluated : evaluate expression = .ok value) (precision : Option Nat) :
    (⟨precision, true⟩ : OutputSettings).formatResult? expression value =
        some (before ++ " = " ++ after) ↔
      before = expression ∧
        (⟨precision, false⟩ : OutputSettings).formatResult? expression value = some after := by
  obtain ⟨e, parsed, -⟩ := evaluate_eq_ok.mp evaluated
  have noBlankLeft : ' ' ∉ expression.toList := fun member =>
    absurd (lexable_of_parse parsed _ member) (by decide)
  simp only [OutputSettings.formatResult?_eq_some_iff, if_true]
  constructor
  · rintro ⟨text, written, same⟩
    have noBlankRight : ' ' ∉ text.toList := fun member =>
      absurd (OutputSettings.formatValue?_characters written _ member) (by simp [Number.IsWritten])
    obtain ⟨rfl, rfl⟩ := append_separator_inj noBlankLeft noBlankRight same
    exact ⟨rfl, text, written, rfl⟩
  · rintro ⟨rfl, text, written, rfl⟩
    exact ⟨text, written, rfl⟩

/-! ### Sessions -/

/-- A command ends the same way with all configurations that let values be written. -/
theorem exists_conclusion_execute (files : Files) (command : Command) :
    ∃ conclusion, ∀ config : Config, config.output.Feasible →
      (command.execute files config).conclusion = conclusion := by
  cases command with
  | eval expression =>
    cases evaluated : evaluate expression with
    | ok value =>
      refine ⟨.complete, fun config feasible => ?_⟩
      obtain ⟨line, formatted⟩ := feasible.exists_formatResult? expression value
      rw [Command.execute, evaluateLine_of_evaluate evaluated, formatted]
      rfl
    | error error =>
      exact ⟨.failed (.line (.ofEvalError expression error)),
        fun config _ => by rw [Command.execute, evaluateLine, evaluated]; rfl⟩
  | run file =>
    obtain ⟨outcome, same, -⟩ := exists_outcome_runBatch files file
    refine ⟨outcome.conclusion, fun config feasible => ?_⟩
    obtain ⟨lines, -, written⟩ := outcome.report_of_feasible feasible
    rw [Command.execute, same, written]
  | display expression stage =>
    exact ⟨(Report.ofLine (showLine stage expression)).conclusion, fun config _ => rfl⟩

/-- Two file systems hold the same batch, if the command is to run one. -/
def Command.SameBatch (command : Command) (files files' : Files) : Prop :=
  ∀ file, command = .run file → files.readText file = files'.readText file

theorem Command.SameBatch.execute_eq {command : Command} {files files' : Files}
    (same : command.SameBatch files files') (config : Config) :
    command.execute files config = command.execute files' config := by
  cases command with
  | eval expression => rfl
  | run file => rw [execute, execute, runBatch, runBatch, same file rfl]
  | display expression stage => rfl

/-- How a run ends makes out the exit code and the complaint at the end of a session. -/
theorem Report.ending_eq_of_conclusion {report report' : Report}
    (same : report.conclusion = report'.conclusion) :
    report.ending.exitCode = report'.ending.exitCode ∧
      report.ending.complaint = report'.ending.complaint := by
  unfold Report.ending
  rw [same]
  cases report'.conclusion <;> exact ⟨rfl, rfl⟩

/-- A command line asks for a command, and the configuration for it is loaded. -/
def RunsWith (files : Files) (start : String) (words : List String) (command : Command)
    (config : Config) : Prop :=
  ∃ named, CommandLine.read words = .ok ⟨named, command⟩ ∧
    Config.load files named start = .ok config

theorem RunsWith.session_eq {files : Files} {start : String} {words : List String}
    {command : Command} {config : Config} (runs : RunsWith files start words command config) :
    session files start words = (command.execute files config).ending := by
  obtain ⟨named, asked, loaded⟩ := runs
  simp only [session, asked, Invocation.execute, loaded]

/-- Without a configuration no command is carried out. -/
theorem session_of_load_error {files : Files} {start : String} {words : List String}
    {named : Option String} {command : Command} {fault : ConfigFault}
    (asked : CommandLine.read words = .ok ⟨named, command⟩)
    (refused : Config.load files named start = .error fault) :
    session files start words = ⟨1, "", some (Failure.ofConfigFault fault).complaint⟩ := by
  simp only [session, asked, Invocation.execute, refused]
  rfl

/-- **Settings change how results are written and nothing else.** A batch comes to one outcome for
all settings. With settings that ask for at most 65535 places it fails at the same line for the same
reason or not at all, and it writes those values, each of the expression in a line of the file and
on one line; with other settings it is aborted before the first of them. A line with the expression
can be cut at ` = ` in one way only, into the expression and the line that is written without it at
the same precision. A session whose configuration cannot be loaded ends the same whatever its
command is. Otherwise two sessions with one command fail alike, whatever their configurations are as
long as values can be written with them. They write the same too if the command shows a stage or if
the precision and the echo are the same, and this with all configurations. -/
theorem settings_only_format :
    (∀ files path, ∃ outcome : Outcome,
      (∀ settings, runBatch files settings path = outcome.report settings) ∧
      (∀ settings : OutputSettings, (∀ places ∈ settings.precision, places ≤ 65535) →
        ∃ lines, Outcome.Written settings outcome.results lines ∧
          outcome.report settings = ⟨lines, outcome.conclusion⟩) ∧
      (∀ text lines, files.read path = .ok text.toByteArray → IsLines text lines →
        outcome.results.map Prod.fst <+: lines.filter (· ≠ "")) ∧
      ∀ expression value, (expression, value) ∈ outcome.results →
        evaluate expression = .ok value ∧
          (∀ (settings : OutputSettings) (line : String),
            settings.formatResult? expression value = some line → '\n' ∉ line.toList) ∧
          ∀ precision before after,
            (⟨precision, true⟩ : OutputSettings).formatResult? expression value =
                some (before ++ " = " ++ after) ↔
              before = expression ∧
                (⟨precision, false⟩ : OutputSettings).formatResult? expression value =
                  some after) ∧
    (∀ files start words named command fault, CommandLine.read words = .ok ⟨named, command⟩ →
      Config.load files named start = .error fault →
        session files start words = ⟨1, "", some (Failure.ofConfigFault fault).complaint⟩) ∧
    ∀ files files' start start' words words' command config config',
      RunsWith files start words command config →
      RunsWith files' start' words' command config' → command.SameBatch files files' →
        let ending := session files start words
        let ending' := session files' start' words'
        ((∀ places ∈ config.output.precision, places ≤ 65535) →
          (∀ places ∈ config'.output.precision, places ≤ 65535) →
            ending.exitCode = ending'.exitCode ∧ ending.complaint = ending'.complaint) ∧
          ((∃ expression stage, command = .display expression stage) → ending = ending') ∧
          (config.output.precision = config'.output.precision →
            config.output.echo = config'.output.echo → ending = ending') := by
  refine ⟨?batch, ?unloaded, ?loaded⟩
  case batch =>
    intro files path
    obtain ⟨outcome, same, begins, evaluated⟩ := exists_outcome_runBatch files path
    refine ⟨outcome, same, fun settings feasible => outcome.report_of_feasible feasible, begins,
      fun expression value member => ?_⟩
    have found : evaluate expression = .ok value := evaluated (expression, value) member
    refine ⟨found, fun settings line written => ?_,
      fun precision _ _ => formatResult?_eq_append_iff found precision⟩
    exact lineFeed_notMem_of_evaluateLine ((evaluateLine_of_evaluate found).trans (by rw [written]))
  case unloaded =>
    intro files start words named command fault asked refused
    exact session_of_load_error asked refused
  case loaded =>
    intro files files' start start' words words' command config config' runs runs' sameBatch
    rw [runs.session_eq, runs'.session_eq, sameBatch.execute_eq]
    refine ⟨fun feasible feasible' => ?_, ?_, ?_⟩
    · obtain ⟨conclusion, ends⟩ := exists_conclusion_execute files' command
      have alike := (ends config feasible).trans (ends config' feasible').symm
      exact Report.ending_eq_of_conclusion alike
    · rintro ⟨expression, stage, rfl⟩
      rfl
    · intro samePrecision sameEcho
      obtain ⟨⟨precision, echo⟩⟩ := config
      cases samePrecision
      cases sameEcho
      rfl

/-- A batch under a configuration with both settings and under none, a stage under both, and a
configuration with a key in the wrong place. The first result of the batch is cut at ` = `. -/
theorem settings_only_format_two_configurations :
    let files : Files := ⟨fun _ => false, fun _ => false, fun path =>
      match path with
      | "one.toml" => .ok "[output]\nprecision = 1\necho = true\n".toByteArray
      | "bad.toml" => .ok "echo = true\n".toByteArray
      | "sums" => .ok "1+2\r\n4/\n".toByteArray
      | _ => .error .notFound⟩
    let configured := session files "/" ["-c", "one.toml", "run", "sums"]
    let plain := session files "/" ["run", "sums"]
    configured.exitCode = plain.exitCode ∧ configured.complaint = plain.complaint ∧
      session files "/" ["show", "-1", "linear", "-c", "one.toml"] =
        session files "/" ["show", "-1", "linear"] ∧
      session files "/" ["show", "-1", "-c", "bad.toml"] =
        ⟨1, "", some (Failure.ofConfigFault (.invalid "bad.toml")).complaint⟩ ∧
      ∃ value, evaluate "1+2" = .ok value ∧
        ∀ before after, (⟨some 1, true⟩ : OutputSettings).formatResult? "1+2" value =
            some (before ++ " = " ++ after) ↔
          before = "1+2" ∧
            (⟨some 1, false⟩ : OutputSettings).formatResult? "1+2" value = some after := by
  intro files configured plain
  obtain ⟨batch, unloaded, loaded⟩ := settings_only_format
  have loads : Config.load files (some "one.toml") "/" = .ok ⟨⟨some 1, true⟩⟩ := by
    decide +kernel
  have default : Config.load files none "/" = .ok {} := by decide +kernel
  have invalid : Config.load files (some "bad.toml") "/" = .error (.invalid "bad.toml") := by
    decide +kernel
  have same (command : Command) : command.SameBatch files files := fun _ _ => rfl
  have runConfigured : RunsWith files "/" ["-c", "one.toml", "run", "sums"] (.run "sums")
      ⟨⟨some 1, true⟩⟩ := ⟨_, by decide, loads⟩
  have runPlain : RunsWith files "/" ["run", "sums"] (.run "sums") {} := ⟨_, by decide, default⟩
  have showConfigured : RunsWith files "/" ["show", "-1", "linear", "-c", "one.toml"]
      (.display "-1" .linear) ⟨⟨some 1, true⟩⟩ := ⟨_, by decide, loads⟩
  have showPlain : RunsWith files "/" ["show", "-1", "linear"] (.display "-1" .linear) {} :=
    ⟨_, by decide, default⟩
  have showInvalid : CommandLine.read ["show", "-1", "-c", "bad.toml"] =
      .ok ⟨some "bad.toml", .display "-1" .tree⟩ := by decide
  obtain ⟨alike, -, -⟩ := loaded _ _ _ _ _ _ _ _ _ runConfigured runPlain (same _)
  obtain ⟨code, complaint⟩ := alike (by simp) (by simp)
  obtain ⟨-, stage, -⟩ := loaded _ _ _ _ _ _ _ _ _ showConfigured showPlain (same _)
  refine ⟨code, complaint, stage ⟨_, _, rfl⟩, unloaded _ _ _ _ _ _ showInvalid invalid, ?_⟩
  -- The first line has a result, which is the first of the outcome.
  obtain ⟨⟨results, failure⟩, written, -, begins, evaluated⟩ := batch files "sums"
  have isLines : IsLines "1+2\r\n4/\n" ["1+2", "4/"] := isLines_iff.mpr (by decide)
  have begins : results.map Prod.fst <+: ["1+2", "4/"] := begins _ _ rfl isLines
  let e : Expression :=
    .mk (.mk (.number "1") .empty) (.next .plus (.mk (.number "2") .empty) .empty)
  have sum : evaluate "1+2" = .ok e.value :=
    evaluate_eq_ok.mpr ⟨e, parse_eq_ok_iff.mpr ⟨by decide, by decide⟩, rfl⟩
  have nonempty : (runBatch files {} "sums").lines ≠ [] := by
    rw [runBatch_of_isLines rfl isLines, runLines, if_neg (by decide), evaluateLine, sum]
    exact List.cons_ne_nil _ _
  rw [written] at nonempty
  cases results with
  | nil => exact absurd rfl nonempty
  | cons result results =>
    obtain ⟨expression, value⟩ := result
    obtain rfl : expression = "1+2" := (List.cons_prefix_cons.mp begins).1
    obtain ⟨evaluated, -, cut⟩ := evaluated "1+2" value List.mem_cons_self
    exact ⟨value, evaluated, cut (some 1)⟩

end Calculator
