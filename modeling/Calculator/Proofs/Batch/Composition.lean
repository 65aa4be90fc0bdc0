import Calculator.Proofs.Batch.Run

/-!
Batches one behind the other, and batches with other line ends.

What a batch does with a text is what it does with the pieces between the line feeds, each without
the carriage returns at its end. That the text behind the last line feed is no line if nothing is in
it makes no difference, since a line with nothing in it is passed over. Carriage returns that are
put in before a line feed or at the end of a text come off its pieces again. And a text that ends in
a line feed leaves the pieces of what follows it alone, so the lines that follow do what they do in
a file of their own, as long as they are reached, but for their numbers.

* `ReturnsAdded`: a text with more carriage returns at its line ends.
* `runLines_trimmedPieces`: a batch works on the pieces.
* `ReturnsAdded.trimmedPieces_eq`, `Ended.exists_trimmedPieces_append`: the pieces of such texts.
* `exists_runLines_eq_forall`: the number that lines are counted from shows in a failure alone.
* `runBatch_composes`: a batch on such texts.
-/

namespace Calculator

variable {settings : OutputSettings} {path : String}

/-- `ReturnsAdded cs cs'`: the characters `cs'` are `cs` with any number of carriage returns put in
before each line feed and at the end. -/
inductive ReturnsAdded : List Char → List Char → Prop where
  | nil (n : Nat) : ReturnsAdded [] (List.replicate n '\r')
  | lineFeed (n : Nat) {cs cs' : List Char} (rest : ReturnsAdded cs cs') :
      ReturnsAdded ('\n' :: cs) (List.replicate n '\r' ++ '\n' :: cs')
  | cons {c : Char} (ordinary : c ≠ '\n') {cs cs' : List Char} (rest : ReturnsAdded cs cs') :
      ReturnsAdded (c :: cs) (c :: cs')

/-- The text has nothing behind its last line feed. -/
def Ended (text : String) : Prop := text = "" ∨ text.toList.getLast? = some '\n'

/-! ### Pieces -/

/-- The pieces between the line feeds of a text, without the carriage returns at their ends. The one
behind the last line feed is among them even if nothing is in it. -/
def trimmedPieces (text : String) : List String :=
  (text.toList.splitOn '\n').map (trimLine <| String.ofList ·)

/-- The pieces are the lines, with one more if the text has nothing behind its last line feed. -/
theorem trimmedPieces_eq (text : String) :
    trimmedPieces text = expressions text ∨ trimmedPieces text = expressions text ++ [""] := by
  simp only [trimmedPieces, expressions, Text.splitAt_eq_splitOn, trimLine, String.toList_ofList]
  split
  · next last =>
    right
    rw [← List.dropLast_append_getLast? [] last, List.dropLast_concat, List.map_append]
    rfl
  · exact .inl rfl

/-- One more line with nothing in it changes nothing. -/
theorem runLines_append_blank (number : Nat) (lines : List String) :
    runLines settings path number (lines ++ [""]) = runLines settings path number lines := by
  induction lines generalizing number with
  | nil => rfl
  | cons line lines ih => rw [List.cons_append, runLines, runLines, ih]

/-- A batch works on the pieces of its text. -/
theorem runLines_trimmedPieces (number : Nat) (text : String) :
    runLines settings path number (trimmedPieces text) =
      runLines settings path number (expressions text) := by
  rcases trimmedPieces_eq text with same | more
  · rw [same]
  · rw [more, runLines_append_blank]

theorem runBatch_of_text {files : Files} {text : String}
    (readable : files.read path = .ok text.toByteArray) :
    runBatch files settings path = runLines settings path 1 (trimmedPieces text) := by
  rw [runBatch_of_isLines readable (isLines_expressions text), runLines_trimmedPieces]

/-! ### Carriage returns -/

/-- The pieces of a text with more carriage returns at its line ends have more of them at their own
ends, and are the same otherwise. -/
theorem ReturnsAdded.splitOn {cs cs' : List Char} (added : ReturnsAdded cs cs') :
    List.Forall₂ (fun piece piece' => ∃ n, piece' = piece ++ List.replicate n '\r')
      (cs.splitOn '\n') (cs'.splitOn '\n') := by
  have inside (n : Nat) : '\n' ∉ List.replicate n '\r' := fun member =>
    absurd (List.eq_of_mem_replicate member) (by decide)
  induction added with
  | nil n =>
    rw [List.splitOn_nil, List.splitOn_eq_singleton (inside n)]
    exact .cons ⟨n, rfl⟩ .nil
  | lineFeed n _ ih =>
    rw [List.splitOn_append_cons_self_of_not_mem (inside n), List.splitOn_cons_eq_if_modifyHead,
      if_pos (beq_self_eq_true _)]
    exact .cons ⟨n, rfl⟩ ih
  | cons ordinary _ ih =>
    -- The character goes to the front of the first piece in both texts.
    simp only [List.splitOn_cons_eq_if_modifyHead, beq_iff_eq, if_neg ordinary]
    generalize List.splitOn '\n' _ = pieces at ih ⊢
    generalize List.splitOn '\n' _ = pieces' at ih ⊢
    cases ih with
    | nil => exact .nil
    | cons first others =>
      obtain ⟨n, rfl⟩ := first
      exact .cons ⟨n, rfl⟩ others

/-- Carriage returns at line ends make no difference to the trimmed pieces. -/
theorem ReturnsAdded.trimmedPieces_eq {text text' : String}
    (added : ReturnsAdded text.toList text'.toList) : trimmedPieces text' = trimmedPieces text := by
  have longer := added.splitOn
  rw [trimmedPieces, trimmedPieces]
  generalize text.toList.splitOn '\n' = pieces at longer ⊢
  generalize text'.toList.splitOn '\n' = pieces' at longer ⊢
  induction longer with
  | nil => rfl
  | cons first _ ih =>
    obtain ⟨n, rfl⟩ := first
    have returns : ∀ c ∈ List.replicate n '\r', (c == '\r') = true := fun c member =>
      beq_iff_eq.mpr (List.eq_of_mem_replicate member)
    rw [List.map_cons, List.map_cons, ih]
    simp only [trimLine, String.toList_ofList, Text.trimEnd_append _ returns]

/-! ### Texts one behind the other -/

/-- A text that ends in a line feed has a line for each of its line feeds, and the pieces of what
follows it are behind them. -/
theorem Ended.exists_trimmedPieces_append {text : String} (ended : Ended text) :
    ∃ lines : List String, lines.length = text.toList.count '\n' ∧
      ∀ rest, trimmedPieces (text ++ rest) = lines ++ trimmedPieces rest := by
  rcases ended with rfl | last
  · exact ⟨[], rfl, fun rest => by rw [String.empty_append, List.nil_append]⟩
  · obtain ⟨front, characters⟩ := List.getLast?_eq_some_iff.mp last
    refine ⟨trimmedPieces (String.ofList front), ?_, fun rest => ?_⟩
    · rw [characters, trimmedPieces, List.length_map, String.toList_ofList, Text.length_splitOn,
        List.count_append, List.count_singleton_self]
    · rw [trimmedPieces, String.toList_append, characters, List.append_assoc, List.singleton_append,
        List.splitOn_append_cons_self, List.map_append, trimmedPieces, String.toList_ofList,
        trimmedPieces]

/-- What lines write, how they end, which of them fails and how does not depend on the number that
they are counted from. -/
theorem exists_runLines_eq_forall (settings : OutputSettings) (path : String)
    (lines : List String) :
    ∃ outs, (∃ conclusion, (conclusion = .complete ∨ conclusion = .aborted) ∧
        ∀ number, runLines settings path number lines = ⟨outs, conclusion⟩) ∨
      ∃ place failure, ∀ number, runLines settings path number lines =
        ⟨outs, .failed (.batch path (place + number) failure)⟩ := by
  obtain ⟨before, outs, writes, rfl | ⟨line, after, rfl, stops⟩⟩ := exists_writes settings lines
  · refine ⟨outs, .inl ⟨.complete, .inl rfl, fun number => ?_⟩⟩
    rw [← List.append_nil before, runLines_append writes, runLines, List.append_nil]
  rcases stops_iff.mp stops with ⟨failure, fails⟩ | aborts
  · refine ⟨outs, .inr ⟨before.length, failure, fun number => ?_⟩⟩
    rw [runLines_append writes, runLines_of_ends (.failed fails), List.append_nil, Nat.add_comm]
  · refine ⟨outs, .inl ⟨.aborted, .inr rfl, fun number => ?_⟩⟩
    rw [runLines_append writes, runLines_of_ends (.aborted aborts), List.append_nil]

/-- Lines that write all their results are followed by the lines behind them. -/
theorem runLines_append_of_eq {first outs : List String} {number : Nat}
    (ran : runLines settings path number first = ⟨outs, .complete⟩) (second : List String) :
    runLines settings path number (first ++ second) =
      ⟨outs ++ (runLines settings path (number + first.length) second).lines,
        (runLines settings path (number + first.length) second).conclusion⟩ := by
  obtain ⟨before, results, writes, ⟨rfl, whole⟩ | ⟨line, after, conclusion, rfl, ends, cut⟩⟩ :=
    exists_runLines_eq settings path number first
  · cases ran.symm.trans whole
    exact runLines_append writes number second
  · cases ran.symm.trans (cut after)
    cases ends

/-- Lines of which one ends the batch hide the lines behind them. -/
theorem runLines_append_of_ne {first : List String} {number : Nat}
    (stopped : (runLines settings path number first).conclusion ≠ .complete)
    (second : List String) :
    runLines settings path number (first ++ second) = runLines settings path number first := by
  obtain ⟨before, outs, -, ⟨-, whole⟩ | ⟨line, after, conclusion, rfl, -, cut⟩⟩ :=
    exists_runLines_eq settings path number first
  · rw [whole] at stopped
    exact absurd rfl stopped
  · rw [List.append_assoc, List.cons_append, cut, cut]

/-- The lines of a report are written one behind the other. -/
theorem Report.text_append (outs outs' : List String) (conclusion : Conclusion) :
    (Report.mk (outs ++ outs') conclusion).text =
      (Report.mk outs .complete).text ++ (Report.mk outs' conclusion).text := by
  simp only [Report.text, List.map_append, String.join_append]

/-- **Batches compose, whatever their line ends.** Carriage returns before the line feeds of a file
and at its end make no difference to the report. Behind a text that is empty or ends in a line feed,
another one does what it does in a file of its own: if the first text has results for all its lines,
those of the second are written behind them, and the batch fails if and only if it does on the
second, with the same failure on the line whose number is larger by the line feeds of the first, and
is aborted if and only if it is on the second. If the first fails or is aborted, the second makes no
difference. -/
theorem runBatch_composes (settings : OutputSettings) (path : String) :
    (∀ (files files' : Files) (text text' : String), ReturnsAdded text.toList text'.toList →
      files.read path = .ok text.toByteArray → files'.read path = .ok text'.toByteArray →
        runBatch files' settings path = runBatch files settings path) ∧
    ∀ (files₁ files₂ files : Files) (first second : String), Ended first →
      files₁.read path = .ok first.toByteArray → files₂.read path = .ok second.toByteArray →
      files.read path = .ok (first ++ second).toByteArray →
        ((runBatch files₁ settings path).conclusion = .complete →
          (runBatch files settings path).text =
            (runBatch files₁ settings path).text ++ (runBatch files₂ settings path).text ∧
          ((runBatch files settings path).conclusion = .complete ↔
            (runBatch files₂ settings path).conclusion = .complete) ∧
          ((runBatch files settings path).conclusion = .aborted ↔
            (runBatch files₂ settings path).conclusion = .aborted) ∧
          ∀ failure, (runBatch files₂ settings path).conclusion = .failed failure →
            ∃ number cause, failure = .batch path number cause ∧
              (runBatch files settings path).conclusion =
                .failed (.batch path (number + first.toList.count '\n') cause)) ∧
        ((runBatch files₁ settings path).conclusion ≠ .complete →
          runBatch files settings path = runBatch files₁ settings path) := by
  refine ⟨?returns, ?joint⟩
  case returns =>
    intro files files' text text' added readable readable'
    rw [runBatch_of_text readable, runBatch_of_text readable', added.trimmedPieces_eq]
  case joint =>
    intro files₁ files₂ files first second ended readable₁ readable₂ readable
    obtain ⟨lines, length_lines, pieces⟩ := ended.exists_trimmedPieces_append
    -- Alone, the first text has one more piece, with nothing in it.
    have alone : runBatch files₁ settings path = runLines settings path 1 lines := by
      have more : trimmedPieces first = lines ++ [""] := by
        rw [← String.append_empty (s := first), pieces]
        rfl
      rw [runBatch_of_text readable₁, more, runLines_append_blank]
    have whole : runBatch files settings path =
        runLines settings path 1 (lines ++ trimmedPieces second) := by
      rw [runBatch_of_text readable, pieces]
    rw [alone, whole, runBatch_of_text readable₂]
    constructor
    · intro ran
      have ran : runLines settings path 1 lines =
          ⟨(runLines settings path 1 lines).lines, .complete⟩ := by
        rw [← ran]
      obtain ⟨outs, ⟨conclusion, noFailure, ends⟩ | ⟨place, cause, fails⟩⟩ :=
        exists_runLines_eq_forall settings path (trimmedPieces second)
      · rw [runLines_append_of_eq ran, ran, ends, ends]
        refine ⟨Report.text_append .., Iff.rfl, Iff.rfl, fun failure failed => ?_⟩
        rcases noFailure with rfl | rfl <;> cases failed
      · rw [runLines_append_of_eq ran, ran, fails, fails]
        refine ⟨Report.text_append .., by simp, by simp, fun failure failed => ?_⟩
        cases failed
        exact ⟨place + 1, cause, rfl, by rw [length_lines, Nat.add_assoc]⟩
    · exact fun stopped => runLines_append_of_ne stopped (trimmedPieces second)

/-- A result, two lines with nothing in them, and a line that fails. The joint is before the second
line; turned round, the line that fails hides the result. -/
theorem runBatch_composes_failure_behind_joint :
    let first := "7\r\n"
    let second := "\r\r\n\n1x\r"
    let files (text : String) : Files :=
      ⟨fun _ => false, fun _ => true, fun _ => .ok text.toByteArray⟩
    let run (text : String) := runBatch (files text) ⟨some 1, true⟩ "sums"
    let failure : LineFailure := .malformed "1x" (.lexical ⟨"x", 1⟩)
    ReturnsAdded "7\n\n\n1x".toList (first ++ second).toList ∧ Ended first ∧
      run first = ⟨["7 = 7.0"], .complete⟩ ∧
      run second = ⟨[], .failed (.batch "sums" 3 failure)⟩ ∧
      (run (first ++ second)).text = "7 = 7.0\n" ∧
      (run (first ++ second)).conclusion = .failed (.batch "sums" 4 failure) ∧
      run "7\n\n\n1x" = run (first ++ second) ∧ run ("1x\n" ++ first) = run "1x\n" := by
  intro first second files run failure
  have added : ReturnsAdded "7\n\n\n1x".toList (first ++ second).toList := by
    rw [show "7\n\n\n1x".toList = ['7', '\n', '\n', '\n', '1', 'x'] by decide,
      show (first ++ second).toList =
        ['7', '\r', '\n', '\r', '\r', '\n', '\n', '1', 'x', '\r'] by decide]
    exact .cons (by decide) <| .lineFeed 1 <| .lineFeed 2 <| .lineFeed 0 <| .cons (by decide) <|
      .cons (by decide) <| .nil 1
  have seven : evaluateLine ⟨some 1, true⟩ "7" = .ok (some "7 = 7.0") := by
    let e : Expression := .mk (.mk (.number "7") .empty) .empty
    have value : e.value = 7.0 := by decide +kernel
    refine evaluateLine_eq_ok.mpr ⟨e, parse_eq_ok_iff.mpr ⟨by decide, by decide⟩, ?_⟩
    rw [value]
    decide +kernel
  have fails (number : Nat) : Ends ⟨some 1, true⟩ "sums" number "1x"
      (.failed (.batch "sums" number failure)) := .failed ⟨by decide, by decide +kernel⟩
  have ran (text : String) : run text = runLines ⟨some 1, true⟩ "sums" 1 (trimmedPieces text) :=
    runBatch_of_text rfl
  have first_eq : run first = ⟨["7 = 7.0"], .complete⟩ := by
    have writes : Writes ⟨some 1, true⟩ ["7", ""] ["7 = 7.0"] := .cons seven .nil
    rw [ran, show trimmedPieces first = ["7", ""] ++ [] by decide, runLines_append writes]
    rfl
  have second_eq : run second = ⟨[], .failed (.batch "sums" 3 failure)⟩ := by
    have writes : Writes ⟨some 1, true⟩ ["", ""] [] := .nil
    rw [ran, show trimmedPieces second = ["", ""] ++ ["1x"] by decide, runLines_append writes,
      runLines_of_ends (fails _)]
    rfl
  have wrong : run "1x\n" = ⟨[], .failed (.batch "sums" 1 failure)⟩ := by
    rw [ran, show trimmedPieces "1x\n" = ["1x", ""] by decide, runLines_of_ends (fails _)]
  have ended : Ended first := .inr (by decide)
  obtain ⟨text, -, -, failed⟩ := ((runBatch_composes ⟨some 1, true⟩ "sums").2 (files first)
    (files second) (files (first ++ second)) first second ended rfl rfl rfl).1
    (congrArg Report.conclusion first_eq)
  obtain ⟨number, cause, cause_eq, whole⟩ := failed _ (congrArg Report.conclusion second_eq)
  cases cause_eq
  rw [show first.toList.count '\n' = 1 by decide] at whole
  refine ⟨added, ended, first_eq, second_eq, ?_, whole, ?_, ?_⟩
  · exact text.trans (by rw [show runBatch (files first) _ _ = _ from first_eq,
      show runBatch (files second) _ _ = _ from second_eq]; decide)
  · exact ((runBatch_composes ⟨some 1, true⟩ "sums").1 _ _ _ _ added rfl rfl).symm
  · refine ((runBatch_composes ⟨some 1, true⟩ "sums").2 (files "1x\n") (files first)
      (files ("1x\n" ++ first)) "1x\n" first (.inr (by decide)) rfl rfl rfl).2 ?_
    rw [show runBatch (files "1x\n") _ _ = _ from wrong]
    exact Conclusion.noConfusion

end Calculator
