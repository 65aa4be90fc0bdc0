import Calculator.Proofs.CommandLine.Flags
import Calculator.Proofs.Line.Stages
import Calculator.Proofs.Session.Settings

/-!
Expressions on the command line.

An expression may begin with any number of minus signs, and so do flags. What parses can still not
be taken for a flag: it has no letter, and all flags have one, and it has a digit, so it is not the
`--` that ends the flags either. It reaches its command as it is. What the command comes to is
written, unless there are to be more places than a number can have or the tree to be shown is too
high; then the session is aborted.

* `exists_digit_of_parse`: what parses has a digit.
* `classify_of_parse`: what parses is a plain word where an expression is expected.
* `session_of_evaluate`: how the sessions end that evaluate or show an expression with a value.
* `session_aborts`: a session that is aborted, under a configuration that loads.
-/

namespace Calculator

/-! ### What every expression has -/

mutual

/-- An expression has a number. -/
theorem Expression.numbers_ne_nil : ∀ e : Expression, e.toTree.numbers ≠ []
  | .mk term tail => by
    rw [Expression.numbers_mk]
    exact List.append_ne_nil_of_left_ne_nil term.numbers_ne_nil _

/-- A term has a number. -/
theorem Term.numbers_ne_nil : ∀ e : Term, e.toTree.numbers ≠ []
  | .mk factor tail => by
    rw [Term.numbers_mk]
    exact List.append_ne_nil_of_left_ne_nil factor.numbers_ne_nil _

/-- A factor has a number. -/
theorem Factor.numbers_ne_nil : ∀ e : Factor, e.toTree.numbers ≠ []
  | .group inner => by
    rw [Factor.numbers_group]
    exact inner.numbers_ne_nil
  | .negation operand => by
    rw [Factor.numbers_negation]
    exact operand.numbers_ne_nil
  | .number text => by
    rw [Factor.numbers_number]
    exact List.cons_ne_nil _ _

end

/-- The characters of a number of a tree are in the text of the tree. -/
theorem Tree.mem_text_of_numbers {t : Tree} {number : String} (inside : number ∈ t.numbers)
    {c : Char} (member : c ∈ number.toList) : c ∈ t.text.toList := by
  obtain ⟨leaf, isLeaf, isNumber⟩ := List.mem_filterMap.mp inside
  obtain rfl : leaf = .number number := by
    cases leaf <;> cases isNumber
    rfl
  rw [Tree.text, String.toList_join, List.mem_flatMap]
  exact ⟨number, List.mem_map.mpr ⟨_, isLeaf, rfl⟩, member⟩

/-- What parses has a digit. -/
theorem exists_digit_of_parse {text : String} {e : Expression} (parsed : parse text = .ok e) :
    ∃ c ∈ text.toList, c.isDigit := by
  obtain ⟨rfl, digits⟩ := parse_eq_ok_iff.mp parsed
  obtain ⟨number, inside⟩ := List.exists_mem_of_ne_nil _ e.numbers_ne_nil
  obtain ⟨nonempty, allDigits⟩ := digits number inside
  obtain ⟨c, member⟩ := List.exists_mem_of_ne_nil _ (mt String.toList_eq_nil_iff.mp nonempty)
  exact ⟨c, Tree.mem_text_of_numbers inside member, allDigits c member⟩

/-! ### Expressions as words -/

namespace CommandLine

/-- A letter is outside the alphabet of expressions, and so is the equals sign. -/
theorem not_lexable_of_letter {c : Char} (letter : isFlagLetter c) : ¬ Lexable c := by
  simp only [isFlagLetter, Bool.or_eq_true, beq_iff_eq] at letter
  rcases letter with ((rfl | rfl) | rfl) | rfl <;> decide

/-- A name without letters is that of no flag. -/
theorem longWord_of_lexable {name : List Char} (lexable : ∀ c ∈ name, Lexable c) :
    longWord true name none = .plain := by
  have different {word : String} (letter : ∃ c ∈ word.toList, ¬ Lexable c) :
      String.ofList name ≠ word := by
    rintro rfl
    obtain ⟨c, member, outside⟩ := letter
    exact outside (lexable c (by simpa using member))
  have noConfig : String.ofList name ≠ "config" := different ⟨'c', by decide, by decide⟩
  have noVerbose : String.ofList name ≠ "verbose" := different ⟨'v', by decide, by decide⟩
  have noQuiet : String.ofList name ≠ "quiet" := different ⟨'q', by decide, by decide⟩
  have noHelp : String.ofList name ≠ "help" := different ⟨'h', by decide, by decide⟩
  unfold longWord
  split <;> first | contradiction | rfl

/-- **What parses is a plain word** where a word may begin with hyphens. -/
theorem classify_of_parse {text : String} {e : Expression} (parsed : parse text = .ok e) :
    classify true text = .plain := by
  have lexable := lexable_of_parse parsed
  obtain ⟨digit, member, isDigit⟩ := exists_digit_of_parse parsed
  unfold classify
  split
  case h_1 hyphens =>
    -- The two hyphens hold no digit.
    rw [hyphens] at member
    obtain rfl : digit = '-' := by simpa using member
    exact absurd isDigit (by decide)
  case h_2 cs _ characters =>
    rw [characters] at lexable
    have inName : ∀ c ∈ cs, Lexable c := fun c member => lexable c (by simp [member])
    have noEquals : ∀ c ∈ cs, (c != '=') = true := by
      intro c member
      rw [bne_iff_ne]
      rintro rfl
      exact absurd (inName _ member) (by decide)
    rw [List.takeWhile_eq_self_iff.mpr noEquals, List.dropWhile_eq_nil_iff.mpr noEquals]
    exact longWord_of_lexable inName
  case h_3 c cs _ _ characters =>
    rw [characters] at lexable
    have noLetter : isFlagLetter c = false := by
      by_contra letter
      exact not_lexable_of_letter (by simpa using letter) (lexable c (by simp))
    simp [noLetter]
  case h_4 => rfl

/-- The name of a stage is a plain word. -/
theorem classify_of_ofName? {name : String} {stage : Stage}
    (named : Stage.ofName? name = some stage) : classify false name = .plain := by
  unfold Stage.ofName? at named
  split at named
  case h_4 => cases named
  all_goals decide

end CommandLine

/-! ### Sessions -/

/-- The end of a session that writes one line. -/
theorem Report.ending_ofLine_some (line : String) :
    (Report.ofLine (.ok (some line))).ending = ⟨0, line ++ "\n", none⟩ := by
  simp [Report.ofLine, Report.ending, Report.text, String.join_cons]

/-- The end of a session that cannot write its line. -/
theorem Report.ending_ofLine_none :
    (Report.ofLine (.ok none)).ending = ⟨101, "", some Ending.outOfRange⟩ := rfl

/-- What may stand behind an expression to be shown: nothing, for its tree, or the name of a
stage. -/
inductive Stage.AskedBy : List String → Stage → Prop where
  | default : AskedBy [] .tree
  | name {word : String} {stage : Stage} (named : Stage.ofName? word = some stage) :
      AskedBy [word] stage

section

variable {files : Files} {start expression : String} {before after : List String}
  {front back : CommandLine.FlagSet} {config : Config} {e : Expression}

open CommandLine

/-- A command line, with flags around it, that asks for the value of what parses. -/
theorem read_eval_of_parse (parsed : parse expression = .ok e)
    (isFront : FlagSet.IsLevel before front) (isBack : FlagSet.IsLevel after back) :
    CommandLine.read (before ++ ["eval", expression] ++ after) =
      .ok ⟨back.config.or front.config, .eval expression⟩ := by
  have command : CommandLine.command "eval" [expression] = .ok (.eval expression) := rfl
  have known : places? "eval" = some ([true] ++ []) := rfl
  have asked := read_of_operands isFront isBack known (.cons (classify_of_parse parsed) .nil) rfl
    command
  simpa using asked

/-- A command line, with flags around it, that asks for a stage of what parses. -/
theorem read_show_of_parse (parsed : parse expression = .ok e)
    (isFront : FlagSet.IsLevel before front) (isBack : FlagSet.IsLevel after back)
    {format : List String} {stage : Stage} (asked : Stage.AskedBy format stage) :
    CommandLine.read (before ++ ["show", expression] ++ format ++ after) =
      .ok ⟨back.config.or front.config, .display expression stage⟩ := by
  have plain := classify_of_parse parsed
  cases asked with
  | default =>
    have command : CommandLine.command "show" [expression] = .ok (.display expression .tree) := rfl
    have known : places? "show" = some ([true] ++ [false]) := rfl
    have asked := read_of_operands isFront isBack known (.cons plain .nil) rfl command
    simpa using asked
  | @name word stage named =>
    have command : CommandLine.command "show" [expression, word] =
        .ok (.display expression stage) := by
      simp only [CommandLine.command, named]
    have known : places? "show" = some ([true, false] ++ []) := rfl
    have asked := read_of_operands isFront isBack known
      (.cons plain (.cons (classify_of_ofName? named) .nil)) rfl command
    simpa using asked

/-- **No expression is taken for a flag.** Let an expression have a value, however many minus signs
it begins with, and let flags stand in front of the command and behind its operands, or none. The
command takes the expression as it stands on the command line. If the configuration loads, a session
that evaluates the expression ends with exit code 0 and writes the expression's line, and a session
that shows one of its stages, its tree if none is named, ends with exit code 0 and writes the stage.
There are two exceptions, and the session is aborted in both: a configuration that asks for more
than 65535 places where a value is to be written, and a tree that is higher than 32767 nodes where
it is to be shown. -/
theorem session_of_evaluate {value : Float} (evaluated : evaluate expression = .ok value)
    (isFront : FlagSet.IsLevel before front) (isBack : FlagSet.IsLevel after back)
    (loaded : Config.load files (back.config.or front.config) start = .ok config) :
    (CommandLine.read (before ++ ["eval", expression] ++ after) =
        .ok ⟨back.config.or front.config, .eval expression⟩ ∧
      ((∀ places ∈ config.output.precision, places ≤ 65535) →
        ∃ line, evaluateLine config.output expression = .ok (some line) ∧
          session files start (before ++ ["eval", expression] ++ after) =
            ⟨0, line ++ "\n", none⟩) ∧
      ∀ places ∈ config.output.precision, 65535 < places →
        session files start (before ++ ["eval", expression] ++ after) =
          ⟨101, "", some Ending.outOfRange⟩) ∧
    ∃ e, parse expression = .ok e ∧ ∀ format stage, Stage.AskedBy format stage →
      CommandLine.read (before ++ ["show", expression] ++ format ++ after) =
          .ok ⟨back.config.or front.config, .display expression stage⟩ ∧
        ((stage = .tree → e.toTree.height ≤ 32767) →
          ∃ shown, stage.render expression = .ok (some shown) ∧
            session files start (before ++ ["show", expression] ++ format ++ after) =
              ⟨0, shown ++ "\n", none⟩) ∧
        (stage = .tree → 32767 < e.toTree.height →
          session files start (before ++ ["show", expression] ++ format ++ after) =
            ⟨101, "", some Ending.outOfRange⟩) := by
  obtain ⟨e, parsed, -⟩ := evaluate_eq_ok.mp evaluated
  refine ⟨?evaluation, e, parsed, ?stages⟩
  case evaluation =>
    have asked := read_eval_of_parse parsed isFront isBack
    have ends : session files start (before ++ ["eval", expression] ++ after) =
        (Report.ofLine (evaluateLine config.output expression)).ending :=
      RunsWith.session_eq ⟨_, asked, loaded⟩
    refine ⟨asked, fun feasible => ?_, fun places asksFor tooMany => ?_⟩
    · obtain ⟨line, formatted⟩ :=
        OutputSettings.Feasible.exists_formatResult? feasible expression value
      have written : evaluateLine config.output expression = .ok (some line) :=
        (evaluateLine_of_evaluate evaluated).trans (congrArg _ formatted)
      exact ⟨line, written, by rw [ends, written, Report.ending_ofLine_some]⟩
    · have infeasible : ¬ config.output.Feasible := fun feasible =>
        absurd (feasible places asksFor) (Nat.not_le.mpr tooMany)
      rw [ends, evaluateLine_eq_none.mpr ⟨⟨value, evaluated⟩, infeasible⟩,
        Report.ending_ofLine_none]
  case stages =>
    intro format stage named
    have asked := read_show_of_parse parsed isFront isBack named
    have ends : session files start (before ++ ["show", expression] ++ format ++ after) =
        (Report.ofLine (showLine stage expression)).ending :=
      RunsWith.session_eq ⟨_, asked, loaded⟩
    refine ⟨asked, fun low => ?_, ?_⟩
    · obtain ⟨shown, rendered⟩ := Stage.exists_render_of_parse parsed low
      refine ⟨shown, rendered, ?_⟩
      rw [ends, showLine, rendered, Except.mapError, Report.ending_ofLine_some]
    · rintro rfl high
      rw [ends, showLine, (Stage.render_tree_eq_none_iff parsed).mpr high, Except.mapError,
        Report.ending_ofLine_none]

/-- Three minus signs before a group, under a configuration named in front and with a flag behind,
and with nothing around the command. -/
theorem session_of_evaluate_three_signs :
    let files : Files := ⟨fun _ => false, fun _ => false, fun path =>
      match path with
      | "one.toml" => .ok "[output]\necho = true\n".toByteArray
      | _ => .error .notFound⟩
    evaluate "---(1)" = .ok (-1.0) ∧
      session files "/" ["-vc", "one.toml", "eval", "---(1)", "-v"] =
        ⟨0, "---(1) = -1\n", none⟩ ∧
      session files "/" ["show", "---(1)", "linear"] = ⟨0, "1 neg neg neg\n", none⟩ := by
  intro files
  let group : Factor := .group (.mk (.mk (.number "1") .empty) .empty)
  let e : Expression := .mk (.mk (.negation (.negation (.negation group))) .empty) .empty
  have parsed : parse "---(1)" = .ok e := parse_eq_ok_iff.mpr ⟨by decide, by decide⟩
  have evaluated : evaluate "---(1)" = .ok (-1.0) :=
    evaluate_eq_ok.mpr ⟨e, parsed, by decide +kernel⟩
  have loads : Config.load files (some "one.toml") "/" = .ok ⟨⟨none, true⟩⟩ := by decide +kernel
  have default : Config.load files none "/" = .ok {} := by decide +kernel
  let named : FlagSet := { config := some "one.toml", verbose := true }
  have cluster : classify false "-vc" = .flags [.verbose, .configNext] := by decide
  have single : classify false "-v" = .flags [.verbose] := by decide
  have value : FlagSet.Takes { awaiting := true, verbose := true } ["one.toml"] named :=
    .value (by decide) rfl (by decide) (.none _)
  have isFront : FlagSet.IsLevel ["-vc", "one.toml"] named := ⟨.flags cluster rfl value, rfl⟩
  have isBack : FlagSet.IsLevel ["-v"] { verbose := true } := ⟨.flags single rfl (.none _), rfl⟩
  obtain ⟨⟨-, writes, -⟩, -⟩ := session_of_evaluate evaluated isFront isBack loads
  obtain ⟨line, isLine, written⟩ := writes (by simp)
  obtain ⟨-, tree, -, shows⟩ :=
    session_of_evaluate evaluated FlagSet.isLevel_nil FlagSet.isLevel_nil default
  obtain ⟨-, displays, -⟩ := shows ["linear"] .linear (.name rfl)
  obtain ⟨shown, rendered, displayed⟩ := displays (by simp)
  have sameLine : OutputSettings.formatResult? ⟨none, true⟩ "---(1)" (-1.0) =
      some "---(1) = -1" := by
    decide +kernel
  have sameShown : Stage.linear.render "---(1)" = .ok (some "1 neg neg neg") := by
    rw [Stage.render_linear, parsed]
    decide
  rw [evaluateLine_of_evaluate evaluated, sameLine] at isLine
  cases isLine
  cases sameShown.symm.trans rendered
  exact ⟨evaluated, written, displayed⟩

/-- **A session that is aborted.** The configuration loads and the expression has a value, which is
not written. -/
theorem session_aborts :
    let contents := "[output]\nprecision = 65536\n".toByteArray
    let files : Files := (Volume.mk (.directory [(Config.fileName, .file contents)]) []).files
    Config.load files none "/" = .ok ⟨⟨some 65536, false⟩⟩ ∧ (∃ value, evaluate "1" = .ok value) ∧
      session files "/" ["eval", "1"] = ⟨101, "", some Ending.outOfRange⟩ := by
  intro contents files
  have loads : Config.load files none "/" = .ok ⟨⟨some 65536, false⟩⟩ := by decide +kernel
  obtain ⟨value, evaluated⟩ : ∃ value, evaluate "1" = .ok value :=
    ⟨_, evaluate_eq_ok.mpr ⟨.mk (.mk (.number "1") .empty) .empty,
      parse_eq_ok_iff.mpr ⟨by decide, by decide⟩, rfl⟩⟩
  have runs : RunsWith files "/" ["eval", "1"] (.eval "1") ⟨⟨some 65536, false⟩⟩ :=
    ⟨none, by decide, loads⟩
  have infeasible : ¬ (⟨some 65536, false⟩ : OutputSettings).Feasible := by
    simp [OutputSettings.Feasible, Text.widest]
  refine ⟨loads, ⟨value, evaluated⟩, ?_⟩
  rw [runs.session_eq, Command.execute, evaluateLine_eq_none.mpr ⟨⟨value, evaluated⟩, infeasible⟩,
    Report.ending_ofLine_none]

end

end Calculator
