import Calculator.Proofs.Batch.Lines
import Calculator.Proofs.Line.Results
import Mathlib.Data.List.Forall2

/-!
What a batch writes, and how it ends.

The lines of a file are worked off in order up to the first one that has no result. A line with
nothing in it is passed over and every other line before that one leaves its result. If the line
fails, so does the batch, with the number of the line among all lines of the file; if the line has a
value that cannot be written, the batch is aborted. What stands behind that line is never looked at.
Whether values can be written is a matter of the settings alone, so a batch that is aborted has
written nothing.

* `Writes`: lines that do not end a batch.
* `Fails`, `Aborts`, `Ends`: a line that does, and how; `Stops`: a line that does in any way.
* `runLines_append`, `runLines_of_ends`, `exists_runLines_eq`: what a batch does with them.
* `runBatch_report`: the report on a file.
* `runBatch_aborts`: a batch that is aborted.
-/

namespace Calculator

variable {settings : OutputSettings} {path : String}

/-- `Writes settings lines outs`: the lines with something in them have these results. -/
def Writes (settings : OutputSettings) (lines outs : List String) : Prop :=
  List.Forall₂ (fun line (out : String) => evaluateLine settings line = .ok (some out))
    (lines.filter (· ≠ "")) outs

/-- The line has something in it, and it fails. -/
def Fails (settings : OutputSettings) (line : String) (failure : LineFailure) : Prop :=
  line ≠ "" ∧ evaluateLine settings line = .error failure

/-- The line has something in it, and a value that cannot be written. -/
def Aborts (settings : OutputSettings) (line : String) : Prop :=
  line ≠ "" ∧ evaluateLine settings line = .ok none

/-- How a line ends the batch `path`, of which it is the line with that number. -/
inductive Ends (settings : OutputSettings) (path : String) (number : Nat) (line : String) :
    Conclusion → Prop where
  | failed {failure : LineFailure} (fails : Fails settings line failure) :
      Ends settings path number line (.failed (.batch path number failure))
  | aborted (aborts : Aborts settings line) : Ends settings path number line .aborted

/-- The line has something in it, and no result. -/
def Stops (settings : OutputSettings) (line : String) : Prop :=
  line ≠ "" ∧ ∀ out : String, evaluateLine settings line ≠ .ok (some out)

/-- A line without a result fails or aborts. -/
theorem stops_iff {line : String} :
    Stops settings line ↔ (∃ failure, Fails settings line failure) ∨ Aborts settings line := by
  constructor
  · rintro ⟨nonempty, noResult⟩
    match evaluated : evaluateLine settings line with
    | .ok (some out) => exact absurd evaluated (noResult out)
    | .ok none => exact .inr ⟨nonempty, evaluated⟩
    | .error failure => exact .inl ⟨failure, nonempty, evaluated⟩
  · rintro (⟨failure, nonempty, failed⟩ | ⟨nonempty, aborted⟩)
    · exact ⟨nonempty, by simp [failed]⟩
    · exact ⟨nonempty, by simp [aborted]⟩

theorem Stops.exists_ends {line : String} (stops : Stops settings line) (path : String)
    (number : Nat) : ∃ conclusion, Ends settings path number line conclusion := by
  rcases stops_iff.mp stops with ⟨failure, fails⟩ | aborts
  · exact ⟨_, .failed fails⟩
  · exact ⟨_, .aborted aborts⟩

theorem Ends.stops {line : String} {number : Nat} {conclusion : Conclusion}
    (ends : Ends settings path number line conclusion) : Stops settings line := by
  cases ends with
  | failed fails => exact stops_iff.mpr (.inl ⟨_, fails⟩)
  | aborted aborts => exact stops_iff.mpr (.inr aborts)

/-- A line aborts a batch if it has a value and the settings let no value be written. -/
theorem aborts_iff {line : String} :
    Aborts settings line ↔ (∃ value, evaluate line = .ok value) ∧ ¬ settings.Feasible := by
  rw [Aborts, evaluateLine_eq_none, and_iff_right_iff_imp]
  rintro ⟨⟨value, evaluated⟩, -⟩ rfl
  have refused : parse "" = .error (.grammatical ⟨.unexpectedEnd, ⟨0, 0⟩⟩) :=
    parse_eq_error.mpr (.inr ⟨[], _, by decide +kernel, by cbv, rfl⟩)
  obtain ⟨e, parsed, -⟩ := evaluate_eq_ok.mp evaluated
  cases refused.symm.trans parsed

theorem writes_blank_iff {lines outs : List String} :
    Writes settings ("" :: lines) outs ↔ Writes settings lines outs := Iff.rfl

theorem writes_cons_iff {line : String} (nonempty : line ≠ "") {lines outs : List String} :
    Writes settings (line :: lines) outs ↔
      ∃ out later, evaluateLine settings line = .ok (some out) ∧ Writes settings lines later ∧
        outs = out :: later := by
  rw [Writes, List.filter_cons_of_pos (by simpa using nonempty)]
  exact List.forall₂_cons_left_iff

/-- Lines that do not end a batch leave their results, and the batch goes on behind them. -/
theorem runLines_append {before outs : List String} (writes : Writes settings before outs)
    (number : Nat) (rest : List String) :
    runLines settings path number (before ++ rest) =
      ⟨outs ++ (runLines settings path (number + before.length) rest).lines,
        (runLines settings path (number + before.length) rest).conclusion⟩ := by
  induction before generalizing outs number with
  | nil =>
    cases writes
    rfl
  | cons line before ih =>
    have next : number + (line :: before).length = number + 1 + before.length := by
      rw [List.length_cons]
      omega
    by_cases blank : line = ""
    · -- A line with nothing in it writes nothing, but it is counted.
      subst blank
      rw [next, ← ih (writes_blank_iff.mp writes)]
      rfl
    · obtain ⟨out, later, evaluated, following, rfl⟩ := (writes_cons_iff blank).mp writes
      rw [List.cons_append, runLines, if_neg (by simpa using blank), evaluated, next]
      dsimp only
      rw [ih following]
      rfl

/-- A line without a result ends the batch. -/
theorem runLines_of_ends {line : String} {number : Nat} {conclusion : Conclusion}
    (ends : Ends settings path number line conclusion) (after : List String) :
    runLines settings path number (line :: after) = ⟨[], conclusion⟩ := by
  cases ends with
  | failed fails => rw [runLines, if_neg (by simpa using fails.1), fails.2]
  | aborted aborts => rw [runLines, if_neg (by simpa using aborts.1), aborts.2]

/-- Either no line ends the batch, or one is the first to do so. -/
theorem exists_writes (settings : OutputSettings) (lines : List String) :
    ∃ before outs, Writes settings before outs ∧
      (before = lines ∨ ∃ line after, lines = before ++ line :: after ∧ Stops settings line) := by
  induction lines with
  | nil => exact ⟨[], [], .nil, .inl rfl⟩
  | cons line lines ih =>
    obtain ⟨before, outs, writes, ends⟩ := ih
    -- What ends the batch behind a line ends it behind one more line too.
    have more : line :: before = line :: lines ∨ ∃ last after,
        line :: lines = line :: before ++ last :: after ∧ Stops settings last := by
      rcases ends with rfl | ⟨last, after, rfl, stops⟩
      · exact .inl rfl
      · exact .inr ⟨last, after, rfl, stops⟩
    by_cases blank : line = ""
    · subst blank
      exact ⟨"" :: before, outs, writes_blank_iff.mpr writes, more⟩
    · by_cases result : ∃ out : String, evaluateLine settings line = .ok (some out)
      · obtain ⟨out, evaluated⟩ := result
        have longer := (writes_cons_iff blank).mpr ⟨out, outs, evaluated, writes, rfl⟩
        exact ⟨line :: before, out :: outs, longer, more⟩
      · exact ⟨[], [], .nil, .inr ⟨line, lines, rfl, blank, not_exists.mp result⟩⟩

/-- No line among those with results ends a batch. -/
theorem Writes.not_stops {lines outs : List String} (writes : Writes settings lines outs) :
    ∀ line ∈ lines, ¬ Stops settings line := by
  rintro line member ⟨nonempty, noResult⟩
  have kept : line ∈ lines.filter (· ≠ "") := List.mem_filter.mpr ⟨member, by simpa using nonempty⟩
  unfold Writes at writes
  generalize lines.filter (· ≠ "") = lines at writes kept
  induction writes with
  | nil => cases kept
  | cons evaluated _ ih =>
    rcases List.mem_cons.mp kept with rfl | later
    · exact noResult _ evaluated
    · exact ih later

/-- Only one line is the first to end a batch. -/
theorem Writes.cut_unique {before before' outs outs' after after' : List String}
    {line line' : String} (writes : Writes settings before outs)
    (writes' : Writes settings before' outs') (stops : Stops settings line)
    (stops' : Stops settings line') (same : before ++ line :: after = before' ++ line' :: after') :
    before = before' ∧ line = line' := by
  have cut := Text.append_cons_unique writes.not_stops writes'.not_stops stops stops' same
  exact ⟨cut.1, cut.2.1⟩

/-- The results that a batch writes are one line each. -/
theorem Writes.lineFeed_notMem {lines outs : List String} (writes : Writes settings lines outs) :
    ∀ out ∈ outs, '\n' ∉ out.toList := by
  unfold Writes at writes
  generalize lines.filter (· ≠ "") = lines at writes
  induction writes with
  | nil => simp
  | cons evaluated _ ih =>
    exact List.forall_mem_cons.mpr ⟨lineFeed_notMem_of_evaluateLine evaluated, ih⟩

/-- What a batch does with its lines: they are cut in two at the first one that ends it, and what
stands behind that one makes no difference. -/
theorem exists_runLines_eq (settings : OutputSettings) (path : String) (number : Nat)
    (lines : List String) :
    ∃ before outs, Writes settings before outs ∧
      ((before = lines ∧ runLines settings path number lines = ⟨outs, .complete⟩) ∨
        ∃ line after conclusion, lines = before ++ line :: after ∧
          Ends settings path (number + before.length) line conclusion ∧
          ∀ after', runLines settings path number (before ++ line :: after') =
            ⟨outs, conclusion⟩) := by
  obtain ⟨before, outs, writes, rfl | ⟨line, after, rfl, stops⟩⟩ := exists_writes settings lines
  · have whole : runLines settings path number before = ⟨outs, .complete⟩ := by
      rw [← List.append_nil before, runLines_append writes, runLines, List.append_nil]
    exact ⟨before, outs, writes, .inl ⟨rfl, whole⟩⟩
  · obtain ⟨conclusion, ends⟩ := stops.exists_ends path (number + before.length)
    refine ⟨before, outs, writes, .inr ⟨line, after, conclusion, rfl, ends, fun after' => ?_⟩⟩
    rw [runLines_append writes, runLines_of_ends ends, List.append_nil]

/-- A batch over a file that holds a text works off the lines of the text, from the first. -/
theorem runBatch_of_isLines {files : Files} {text : String} {lines : List String}
    (readable : files.read path = .ok text.toByteArray) (isLines : IsLines text lines) :
    runBatch files settings path = runLines settings path 1 lines := by
  rw [runBatch, Files.readText_eq_ok.mpr readable, isLines_iff.mp isLines]

theorem runBatch_of_unreadable {files : Files} {fault : ReadFault}
    (unreadable : files.readText path = .error fault) :
    runBatch files settings path = ⟨[], .failed (.unreadable path fault)⟩ := by
  rw [runBatch, unreadable]

/-- **The report on a file.** For a file that holds a text, the lines of the text are cut in two.
Those before the first line that has no result have results, the ones with nothing in them apart.
The results are what is written, in order, one line each. If all lines have results, the batch is
complete. If one fails, the batch fails with its number, counted from one over all the lines, and
its failure; if it has a value that cannot be written, the batch is aborted. Whatever a file has
behind that line, the report is the same. Of a file that cannot be read, or with bytes that are no
text, nothing is written, and the failure says so. No line aborts a batch unless the settings ask
for more than 65535 places, and then every line with a value does. -/
theorem runBatch_report (files : Files) (settings : OutputSettings) (path : String) :
    (∀ text lines, files.read path = .ok text.toByteArray → IsLines text lines →
      ∃ before outs, Writes settings before outs ∧
        (runBatch files settings path).text = String.join (outs.map (· ++ "\n")) ∧
        (∀ out ∈ outs, '\n' ∉ out.toList) ∧
        ((before = lines ∧ runBatch files settings path = ⟨outs, .complete⟩) ∨
          ∃ line after conclusion, lines = before ++ line :: after ∧
            Ends settings path (before.length + 1) line conclusion ∧
            runBatch files settings path = ⟨outs, conclusion⟩ ∧
            ∀ files' text' after', files'.read path = .ok text'.toByteArray →
              IsLines text' (before ++ line :: after') →
                runBatch files' settings path = runBatch files settings path)) ∧
    (∀ fault, files.read path = .error fault →
      runBatch files settings path = ⟨[], .failed (.unreadable path fault)⟩) ∧
    (∀ bytes, files.read path = .ok bytes → (∀ text : String, text.toByteArray ≠ bytes) →
      runBatch files settings path = ⟨[], .failed (.unreadable path .notText)⟩) ∧
    ∀ line, Aborts settings line ↔
      (∃ value, evaluate line = .ok value) ∧ ∃ places, settings.precision = some places ∧
        65535 < places := by
  refine ⟨?text, ?fault, ?noText, ?aborts⟩
  case text =>
    intro text lines readable isLines
    obtain ⟨before, outs, writes, ends⟩ := exists_runLines_eq settings path 1 lines
    have written {conclusion : Conclusion}
        (report : runBatch files settings path = ⟨outs, conclusion⟩) :
        (runBatch files settings path).text = String.join (outs.map (· ++ "\n")) := by
      rw [report, Report.text]
    rcases ends with ⟨rfl, whole⟩ | ⟨line, after, conclusion, rfl, ends, cut⟩
    · have report := (runBatch_of_isLines readable isLines).trans whole
      exact ⟨before, outs, writes, written report, writes.lineFeed_notMem, .inl ⟨rfl, report⟩⟩
    · rw [Nat.add_comm] at ends
      have report := (runBatch_of_isLines readable isLines).trans (cut after)
      refine ⟨before, outs, writes, written report, writes.lineFeed_notMem,
        .inr ⟨line, after, conclusion, rfl, ends, report, ?_⟩⟩
      intro files' text' after' readable' isLines'
      rw [report, runBatch_of_isLines readable' isLines', cut]
  case fault =>
    intro fault unreadable
    exact runBatch_of_unreadable (Files.readText_eq_error.mpr (.inl unreadable))
  case noText =>
    intro bytes readable noText
    exact runBatch_of_unreadable (Files.readText_eq_error.mpr (.inr ⟨rfl, bytes, readable, noText⟩))
  case aborts =>
    intro line
    simp only [aborts_iff, OutputSettings.Feasible, Text.widest, not_forall, Option.mem_def,
      Nat.not_le, exists_prop]

/-- Carriage returns, lines with nothing in them, a line that fails and one behind it. The last line
is not ended. -/
theorem runBatch_report_fourth_line_fails :
    let text := "1+2\r\r\n\r\n\n1x\r\n5"
    let lines := ["1+2", "", "", "1x", "5"]
    let files : Files := ⟨fun _ => false, fun _ => true, fun _ => .ok text.toByteArray⟩
    let failure : LineFailure := .malformed "1x" (.lexical ⟨"x", 1⟩)
    files.read "sums" = .ok text.toByteArray ∧ IsLines text lines ∧
      runBatch files ⟨some 1, true⟩ "sums" =
        ⟨["1+2 = 3.0"], .failed (.batch "sums" 4 failure)⟩ := by
  intro text lines files failure
  have isLines : IsLines text lines := isLines_iff.mpr (by decide)
  have sum : evaluateLine ⟨some 1, true⟩ "1+2" = .ok (some "1+2 = 3.0") := by
    let e : Expression :=
      .mk (.mk (.number "1") .empty) (.next .plus (.mk (.number "2") .empty) .empty)
    have value : e.value = 3.0 := by decide +kernel
    refine evaluateLine_eq_ok.mpr ⟨e, parse_eq_ok_iff.mpr ⟨by decide, by decide⟩, ?_⟩
    rw [value]
    decide +kernel
  have first : Writes ⟨some 1, true⟩ ["1+2", "", ""] ["1+2 = 3.0"] := .cons sum .nil
  have fourth : Fails ⟨some 1, true⟩ "1x" failure := ⟨by decide, by decide +kernel⟩
  refine ⟨rfl, isLines, ?_⟩
  have stops : Stops ⟨some 1, true⟩ "1x" := stops_iff.mpr (.inl ⟨failure, fourth⟩)
  obtain ⟨before, outs, writes, -, -, ⟨rfl, -⟩ | ⟨line, after, conclusion, cut, ends, report, -⟩⟩ :=
    (runBatch_report files ⟨some 1, true⟩ "sums").1 text lines rfl isLines
  · exact absurd stops (writes.not_stops "1x" (by simp [lines]))
  · obtain ⟨rfl, rfl⟩ := first.cut_unique writes stops ends.stops cut
    obtain ⟨out, later, evaluated, nothing, rfl⟩ := (writes_cons_iff (by decide)).mp writes
    cases nothing
    cases sum.symm.trans evaluated
    cases ends with
    | failed fails =>
      cases fourth.2.symm.trans fails.2
      exact report
    | aborted aborts => cases fourth.2.symm.trans aborts.2

/-- **A batch that is aborted.** A line with a value is written with 65535 places. With one more it
is not, and the batch does not fail either. -/
theorem runBatch_aborts :
    let files : Files := ⟨fun _ => false, fun _ => true, fun _ => .ok "1\n".toByteArray⟩
    (∃ value, evaluate "1" = .ok value) ∧
      (∃ out, runBatch files ⟨some 65535, false⟩ "one" = ⟨[out], .complete⟩) ∧
      runBatch files ⟨some 65536, false⟩ "one" = ⟨[], .aborted⟩ := by
  intro files
  have isLines : IsLines "1\n" ["1"] := isLines_iff.mpr (by decide)
  obtain ⟨value, evaluated⟩ : ∃ value, evaluate "1" = .ok value :=
    ⟨_, evaluate_eq_ok.mpr ⟨.mk (.mk (.number "1") .empty) .empty,
      parse_eq_ok_iff.mpr ⟨by decide, by decide⟩, rfl⟩⟩
  have ran (settings : OutputSettings) :
      runBatch files settings "one" = runLines settings "one" 1 ["1"] :=
    runBatch_of_isLines rfl isLines
  refine ⟨⟨value, evaluated⟩, ?_, ?_⟩
  · have feasible : (⟨some 65535, false⟩ : OutputSettings).Feasible := by
      simp [OutputSettings.Feasible, Text.widest]
    obtain ⟨out, written⟩ := feasible.exists_formatResult? "1" value
    have first : Writes ⟨some 65535, false⟩ ["1"] [out] :=
      .cons ((evaluateLine_of_evaluate evaluated).trans (by rw [written])) .nil
    refine ⟨out, ?_⟩
    rw [ran, ← List.append_nil ["1"], runLines_append first, runLines, List.append_nil]
  · have aborts : Aborts ⟨some 65536, false⟩ "1" :=
      aborts_iff.mpr ⟨⟨value, evaluated⟩, by simp [OutputSettings.Feasible, Text.widest]⟩
    rw [ran, runLines_of_ends (.aborted aborts)]

end Calculator
